import Markweave.Proofs.Rendering.Skeleton

namespace Markweave

/-- What a parser made of a document, and the clock it is rendered by. -/
abbrev ParsedDocument := Clock × List Markdown.Event

namespace Renderer

/-- A renderer whose documents share a counter. -/
def sharing (c : RenderConfig) (next : UInt64) : Renderer := ⟨{ c with idScope := .shared ⟨next⟩ }⟩

theorem renderEvents_sharing (c : RenderConfig) (next : UInt64) (clock : Clock) (events : List Markdown.Event) :
    (sharing c next).renderEvents clock events =
      ((Rendering.ofEvents c clock ⟨next⟩ events).1,
        sharing c (Rendering.ofEvents c clock ⟨next⟩ events).2.next) :=
  rfl

/-- The HTML of each document and the renderer behind it. -/
def session (r : Renderer) : List ParsedDocument → List (Except RenderError Text × Renderer)
  | [] => []
  | (clock, events) :: more =>
    r.renderEvents clock events :: (r.renderEvents clock events).2.session more

/-- The session of documents as their authors wrote them. -/
def renderAll (r : Renderer) : List (Clock × Text) → List (Except RenderError Text × Renderer)
  | [] => []
  | (clock, document) :: more => r.render clock document :: (r.render clock document).2.renderAll more

/-- How documents are parsed does not change in a session. -/
theorem renderAll_eq_session (r : Renderer) (documents : List (Clock × Text)) :
    r.renderAll documents =
      r.session (documents.map fun (clock, document) => (clock, Rendering.events r.config document)) := by
  induction documents generalizing r with
  | nil => rfl
  | cons d documents ih =>
    obtain ⟨clock, document⟩ := d
    rw [renderAll, ih, List.map_cons, session]
    rfl

end Renderer

/-- What becomes of a document wherever the counter stands: HTML with slots, or an error and no number. -/
abbrev Plan := Except RenderError Skeleton

namespace Plan

def count : Plan → Nat
  | .ok sk => sk.count
  | .error _ => 0

def html (first : UInt64) : Plan → Except RenderError Text
  | .ok sk => .ok (sk.html first)
  | .error e => .error e

/-- The owners of the numbers of a document, with their numbers. -/
def marks (first : UInt64) : Plan → List (IdOwner × UInt64)
  | .ok sk => sk.text.slots.map fun s => (s.owner, s.number first)
  | .error _ => []

end Plan

namespace Session

/-- How many numbers a session draws. -/
def total : List Plan → Nat
  | [] => 0
  | p :: ps => p.count + total ps

/-- Each document draws as many numbers as its plan says, and the next one goes on behind them. -/
def steps (c : RenderConfig) (first : UInt64) : List Plan → List (Except RenderError Text × Renderer)
  | [] => []
  | p :: ps =>
    (p.html first, .sharing c (first + .ofNat p.count)) :: steps c (first + .ofNat p.count) ps

/-- All numbers of a session with their owners. -/
def marks (first : UInt64) : List Plan → List (IdOwner × UInt64)
  | [] => []
  | p :: ps => p.marks first ++ marks (first + .ofNat p.count) ps

/-- The id strings that a session generates. -/
def ids (first : UInt64) (plans : List Plan) : List Text := (marks first plans).map fun (o, n) => o.id n

end Session

namespace IdOwner

/-- No stem ends in a digit, so the number can be read off an id. -/
theorem takeWhile_isDigit_id (o : IdOwner) (n : UInt64) :
    (o.id n).reverse.takeWhile Char.isDigit = (UInt64.text n).reverse := by
  have hstem : o.stem.reverse.takeWhile Char.isDigit = [] := by
    have hkinds : ∀ k ∈ DiagramKind.all, k.idStem.reverse.takeWhile Char.isDigit = [] := by decide
    cases o with
    | diagram kind hk => exact hkinds kind hk
    | code => decide
    | heading digit hd => exact (by decide : "heading_".toList.reverse.takeWhile Char.isDigit = [])
  rw [id, List.reverse_append, List.takeWhile_append_of_pos, hstem, List.append_nil]
  intro c hc
  exact UInt64.isDigit_of_mem_text (List.mem_reverse.mp hc)

theorem number_of_id_eq {o o' : IdOwner} {m n : UInt64} (h : o.id m = o'.id n) : m = n := by
  have hdigits := congrArg (fun t : Text => t.reverse.takeWhile Char.isDigit) h
  simp only [takeWhile_isDigit_id] at hdigits
  exact UInt64.text_injective (List.reverse_inj.mp hdigits)

end IdOwner

/-- The numbers of a document are the successive ones behind its first, each of them once. -/
theorem Plan.numbers_perm (first : UInt64) (p : Plan) :
    ((p.marks first).map Prod.snd).Perm ((List.range p.count).map fun i => first + .ofNat i) := by
  cases p with
  | error e => exact .refl _
  | ok sk =>
    have hnumbers : ((sk.text.slots.map fun s => (s.owner, s.number first)).map Prod.snd) =
        (sk.text.slots.map Slot.offset).map fun i => first + UInt64.ofNat i := by
      rw [List.map_map, List.map_map]
      rfl
    rw [marks, hnumbers]
    exact sk.offsets.map _

namespace Session

/-- So are the numbers of a session, by induction over its documents. -/
theorem numbers_perm (first : UInt64) (plans : List Plan) :
    ((marks first plans).map Prod.snd).Perm ((List.range (total plans)).map fun i => first + .ofNat i) := by
  induction plans generalizing first with
  | nil => exact .refl _
  | cons p ps ih =>
    have hlater : (List.range (total ps)).map (fun i => first + UInt64.ofNat p.count + UInt64.ofNat i) =
        ((List.range (total ps)).map (p.count + ·)).map fun i => first + UInt64.ofNat i := by
      rw [List.map_map]
      apply List.map_congr_left
      intro i _
      rw [Function.comp_apply, UInt64.ofNat_add, UInt64.add_assoc]
    rw [marks, List.map_append, total, List.range_add, List.map_append]
    refine (p.numbers_perm first).append ?_
    have hrest := ih (first + .ofNat p.count)
    rw [hlater] at hrest
    exact hrest

/-- Fewer numbers than the counter has are all different. -/
theorem nodup_numbers (first : UInt64) {k : Nat} (hk : k < UInt64.size) :
    ((List.range k).map fun i => first + UInt64.ofNat i).Nodup := by
  rw [List.Nodup, List.pairwise_map]
  apply List.Pairwise.imp_of_mem _ List.nodup_range
  intro i j hi hj hne he
  rw [List.mem_range] at hi hj
  have hnat := congrArg UInt64.toNat ((UInt64.add_right_inj first).mp he)
  rw [UInt64.toNat_ofNat_of_lt' (Nat.lt_trans hi hk), UInt64.toNat_ofNat_of_lt' (Nat.lt_trans hj hk)] at hnat
  exact hne hnat

theorem nodup_ids (first : UInt64) {plans : List Plan} (h : total plans < UInt64.size) :
    (ids first plans).Nodup := by
  have hnumbers : ((marks first plans).map Prod.snd).Nodup :=
    (numbers_perm first plans).nodup_iff.mpr (nodup_numbers first h)
  rw [List.Nodup, List.pairwise_map] at hnumbers
  rw [ids, List.Nodup, List.pairwise_map]
  apply hnumbers.imp
  intro x y hne he
  exact hne (IdOwner.number_of_id_eq he)

/-- How many characters a session writes. -/
def written : List (Except RenderError Text × Renderer) → Nat
  | [] => 0
  | (.ok html, _) :: more => html.length + written more
  | (.error _, _) :: more => written more

/-- A session cannot draw more numbers than it writes characters. -/
theorem total_le_written (c : RenderConfig) (first : UInt64) (plans : List Plan) :
    total plans ≤ written (steps c first plans) := by
  induction plans generalizing first with
  | nil => exact Nat.le_refl 0
  | cons p ps ih =>
    rw [total, steps]
    cases p with
    | error e =>
      have hrest := ih (first + .ofNat 0)
      simp only [Plan.count, Plan.html, written]
      omega
    | ok sk =>
      have hrest := ih (first + .ofNat sk.count)
      have hslots : sk.count ≤ (sk.html first).length := Marked.length_slots_le first sk.text
      simp only [Plan.count, Plan.html, written]
      omega

end Session

section

variable {c : RenderConfig}

/-- A document that runs out of time draws nothing; any other one has a skeleton. -/
theorem exists_plan (hstyle : '<' ∉ c.stylePrefix) (d : ParsedDocument) :
    ∃ p : Plan, (∀ elapsed, Rendering.overrun? c.nanoseconds d.1 d.2.length = some elapsed →
        p = .error (@RenderError.parseTimeout elapsed c.nanoseconds)) ∧
      ∀ first, (Renderer.sharing c first).renderEvents d.1 d.2 =
        (p.html first, .sharing c (first + .ofNat p.count)) := by
  cases hlate : Rendering.overrun? c.nanoseconds d.1 d.2.length with
  | some late =>
    refine ⟨.error (@RenderError.parseTimeout late c.nanoseconds), ?_, ?_⟩
    · intro elapsed h
      rw [Option.some.inj h]
    intro first
    have hsame : first + UInt64.ofNat 0 = first := UInt64.add_zero first
    rw [Renderer.renderEvents_sharing, Rendering.ofEvents_late hlate, Plan.count, hsame]
    rfl
  | none =>
    obtain ⟨sk, hsk⟩ := Rendering.exists_skeleton hstyle (Html.writeAll (Html.write c d.2))
    refine ⟨.ok sk, nofun, ?_⟩
    intro first
    rw [Renderer.renderEvents_sharing, Rendering.ofEvents_inTime hlate, hsk]
    rfl

theorem session_eq_steps {plan : ParsedDocument → Plan}
    (h : ∀ d first, (Renderer.sharing c first).renderEvents d.1 d.2 =
      ((plan d).html first, .sharing c (first + .ofNat (plan d).count)))
    (documents : List ParsedDocument) (first : UInt64) :
    (Renderer.sharing c first).session documents = Session.steps c first (documents.map plan) := by
  induction documents generalizing first with
  | nil => rfl
  | cons d documents ih =>
    have hfirst := h d first
    rw [Renderer.session, hfirst, ih]
    rfl

/-- Each document has a plan of its own, whatever its parser made of it and wherever the counter stands. A
document writes the successive numbers from where the counter stands, each into one slot, and none if it runs
out of time; a session goes through the plans in order, and gives no id twice unless the counter comes round. -/
theorem session_sharing (hstyle : c.stylePrefix.all Settings.isPrefixChar = true) :
    ∃ plan : ParsedDocument → Plan,
      (∀ d first, (((plan d).marks first).map Prod.snd).Perm
        ((List.range (plan d).count).map fun i => first + .ofNat i)) ∧
      (∀ d elapsed, Rendering.overrun? c.nanoseconds d.1 d.2.length = some elapsed →
        plan d = .error (@RenderError.parseTimeout elapsed c.nanoseconds)) ∧
      ∀ (documents : List ParsedDocument) (first : UInt64),
        (Renderer.sharing c first).session documents = Session.steps c first (documents.map plan) ∧
        (Session.total (documents.map plan) < UInt64.size → (Session.ids first (documents.map plan)).Nodup) := by
  have hplans : ∀ d, _ := exists_plan (c := c) (Diagram.notMem_of_isPrefixChar hstyle)
  obtain ⟨plan, hplan⟩ := Classical.skolem.mp hplans
  refine ⟨plan, fun d first => (plan d).numbers_perm first, fun d => (hplan d).1, ?_⟩
  intro documents first
  exact ⟨session_eq_steps (fun d => (hplan d).2) documents first, Session.nodup_ids first⟩

end

/-- A heading with a diagram, a document that runs out of time, and another heading. -/
def threeDocuments : List ParsedDocument :=
  [(fun _ => 0, [.start (.heading .h1), .text "a", .stop (.heading .h1), .start (.code (.fenced "mermaid")),
      .text "b", .stop .code]),
    (fun _ => 2000000001, [.start (.heading .h2)]),
    (fun _ => 0, [.start (.heading .h3), .text "c", .stop (.heading .h3)])]

theorem session_sharing_three_documents :
    ((Renderer.sharing .default 7).session threeDocuments).map (·.2.counter.next) = [9, 9, 10] ∧
    ∃ plan : ParsedDocument → Plan,
      (Renderer.sharing .default 7).session threeDocuments = Session.steps .default 7 (threeDocuments.map plan) ∧
      (Session.ids 7 (threeDocuments.map plan)).Nodup := by
  obtain ⟨plan, _, _, hsession⟩ := @session_sharing .default (by decide)
  obtain ⟨hsteps, hnodup⟩ := hsession threeDocuments 7
  have hwritten : Session.written ((Renderer.sharing .default 7).session threeDocuments) < UInt64.size := by
    decide +kernel
  have htotal := Session.total_le_written .default 7 (threeDocuments.map plan)
  rw [← hsteps] at htotal
  refine ⟨by decide +kernel, ?_⟩
  exact ⟨plan, hsteps, hnodup (Nat.lt_of_le_of_lt htotal hwritten)⟩

end Markweave
