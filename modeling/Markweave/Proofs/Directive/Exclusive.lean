import Markweave.Directive.Interpreter
import Markweave.Proofs.Directive.Grammar

namespace Markweave.Directive

open Interpreter (script openDiv)

variable {k raw rest : Text} {f g : Form}

/-- What follows the keyword of a toggler that is appended to other elements. -/
def appendRest? (raw : Text) : Option Text :=
  (dropKeyword? "TOGGLER.AFTER" raw).or (dropKeyword? "TOGGLER.BEFORE" raw)

/-- An appended toggler that may as well be a bare one: what follows its keyword has no inner space and no colon. -/
def isAmbiguous (raw : Text) : Bool :=
  (appendRest? raw).any fun rest => (rest.dropEndWhile (· == ' ')).all allowsName

/-- Nothing is written, or scripts that append togglers to the elements of a tag with a style. -/
def Interpreter.AppendsOnly (i : Interpreter) : Outcome → Prop
  | .dropped _ => True
  | .rendered html => ∃ snippets : List (List Html.Markup), html = snippets.flatten ∧
      ∀ snippet ∈ snippets, ∃ tag style widget before : Text,
        snippet = script (i.app ++ ".get(\"UIToggler\").appendTogglerForElements(\"" ++ tag ++ "." ++ style ++
          "\", \"" ++ widget ++ "\", " ++ before ++ ");")

/-- No keyword of the form begins like the given one. -/
def Form.Avoids (f : Form) (k : Text) : Prop := ∀ l ∈ f.keywords.map Prod.fst, ¬ k <+: l ∧ ¬ l <+: k

instance : Decidable (f.Avoids k) := inferInstanceAs (Decidable (∀ l ∈ _, _))

/-- No keyword of one form begins like one of the other. -/
def Form.Apart (f g : Form) : Prop := ∀ k ∈ f.keywords.map Prod.fst, g.Avoids k

instance : Decidable (f.Apart g) := inferInstanceAs (Decidable (∀ k ∈ _, _))

theorem Form.Avoids.read?_eq_none (h : f.Avoids k) (hk : (dropKeyword? k raw).isSome) : f.read? raw = none := by
  cases hread : f.read? raw with
  | none => rfl
  | some d =>
    obtain ⟨l, rest, hmem, hrest, _⟩ := Form.exists_keyword_of_read? hread
    obtain ⟨hkl, hlk⟩ := h l (List.mem_map_of_mem hmem)
    rcases prefix_or_prefix_of_dropKeyword? hk (Option.isSome_of_eq_some hrest) with hp | hp
    · exact absurd hp hkl
    · exact absurd hp hlk

theorem Form.Apart.read?_eq_none (h : f.Apart g) {d : Directive} (hf : f.read? raw = some d) :
    g.read? raw = none := by
  obtain ⟨k, rest, hmem, hrest, _⟩ := Form.exists_keyword_of_read? hf
  exact (h k (List.mem_map_of_mem hmem)).read?_eq_none (Option.isSome_of_eq_some hrest)

theorem allowsName_of_toUpper {c : Char} (h : allowsName c.toUpper = true) : allowsName c = true := by
  unfold Char.toUpper at h
  split at h
  · next hc =>
    have hlower : c.isLower = true := Bool.and_eq_true_iff.mpr ⟨decide_eq_true hc.1, decide_eq_true hc.2⟩
    have hletter : c.isAlphanum = true := by
      change (c.isUpper || c.isLower || c.isDigit) = true
      rw [hlower, Bool.or_true, Bool.true_or]
    simp [allowsName, hletter]
  · exact h

section Appended

variable (h : appendRest? raw = some rest)
include h

/-- The keyword of an appended toggler is the one of a bare toggler and a name behind it. -/
theorem exists_of_appendRest? : ∃ a c b, raw = a ++ (c :: b ++ rest) ∧ a.map Char.toUpper = "TOGGLER".toList ∧
    (∀ d ∈ c :: b, allowsName d = true) ∧ c ≠ ',' := by
  have hname : ∀ side : Text, side = '.' :: side.tail → (∀ d ∈ side, allowsName d = true) →
      dropKeyword? ("TOGGLER" ++ side) raw = some rest →
      ∃ a c b, raw = a ++ (c :: b ++ rest) ∧ a.map Char.toUpper = "TOGGLER".toList ∧
        (∀ d ∈ c :: b, allowsName d = true) ∧ c ≠ ',' := by
    intro side hdot hside hdrop
    obtain ⟨t, ht, rfl⟩ := dropKeyword?_eq_some_iff.mp hdrop
    obtain ⟨a, name, rfl, ha, hn⟩ := List.map_eq_append_iff.mp ht
    rw [hdot] at hn
    obtain ⟨c, b, rfl, hc, hb⟩ := List.map_eq_cons_iff.mp hn
    refine ⟨a, c, b, List.append_assoc .., ha, ?_, ?_⟩
    · intro d hd
      apply allowsName_of_toUpper
      apply hside
      rw [hdot, ← hc, ← hb, ← List.map_cons]
      exact List.mem_map_of_mem hd
    · rintro rfl
      exact absurd hc (by decide)
  rcases Option.or_eq_some_iff.mp h with h | ⟨_, h⟩
  · exact hname ".AFTER" rfl (by simp [allowsName]) h
  · exact hname ".BEFORE" rfl (by simp [allowsName]) h

/-- The form of bare togglers reads an appended one when it may: the keyword goes on as a name. -/
theorem read?_togglerForm : ∃ c name, c ≠ ',' ∧ c ≠ ' ' ∧
    togglerForm.read? raw =
      if (rest.dropEndWhile (· == ' ')).all allowsName then some ⟨.toggler, c :: name⟩ else none := by
  obtain ⟨a, c, b, rfl, ha, hname, hc⟩ := exists_of_appendRest? h
  have hblank : ∀ d ∈ c :: b, (d == ' ') = false := by
    intro d hd
    refine beq_false_of_ne ?_
    rintro rfl
    exact absurd (hname ' ' hd) (by decide)
  have htrim : Text.trimWhile (· == ' ') (c :: b ++ rest) = c :: b ++ rest.dropEndWhile (· == ' ') := by
    rw [Text.trimWhile, List.cons_append, List.dropWhile_cons_of_neg (by simp [hblank c List.mem_cons_self])]
    exact Text.dropEndWhile_append hblank rest
  have hdrop : dropKeyword? "TOGGLER" (a ++ (c :: b ++ rest)) = some (c :: b ++ rest) :=
    dropKeyword?_eq_some_iff.mpr ⟨a, ha, rfl⟩
  refine ⟨c, b ++ rest.dropEndWhile (· == ' '), hc, ?_, ?_⟩
  · simpa using hblank c List.mem_cons_self
  · have hall : (c :: b).all allowsName = true := List.all_eq_true.mpr hname
    have hparam : (c :: b ++ rest.dropEndWhile (· == ' ')).all allowsName =
        (rest.dropEndWhile (· == ' ')).all allowsName := by rw [List.all_append, hall, Bool.true_and]
    rw [← hparam, ← List.cons_append, ← htrim]
    split
    · next hread => exact Form.read?_cons_of_all hdrop hread
    · next hread => exact Form.read?_cons_of_not_all hdrop hread

theorem read?_togglerForm_eq_none (ha : isAmbiguous raw = false) : togglerForm.read? raw = none := by
  obtain ⟨c, name, _, _, hread⟩ := read?_togglerForm h
  rw [isAmbiguous, h, Option.any_some] at ha
  rw [hread, if_neg (by simp [ha])]

/-- No other form reads the text. -/
theorem recognize?_of_appendRest? : recognize? raw = (togglerForm.read? raw).or (togglerAppendForm.read? raw) := by
  have hnone : ∀ f : Form, f.Avoids "TOGGLER.AFTER" → f.Avoids "TOGGLER.BEFORE" → f.read? raw = none := by
    intro f hafter hbefore
    rcases Option.or_eq_some_iff.mp h with h | ⟨_, h⟩
    · exact hafter.read?_eq_none (Option.isSome_of_eq_some h)
    · exact hbefore.read?_eq_none (Option.isSome_of_eq_some h)
  simp only [recognize?, forms, List.findSome?_cons, List.findSome?_nil,
    hnone openForm (by decide +kernel) (by decide +kernel), hnone closeForm (by decide +kernel) (by decide +kernel),
    hnone tocForm (by decide +kernel) (by decide +kernel)]
  cases togglerForm.read? raw <;> cases togglerAppendForm.read? raw <;> rfl

end Appended

/-- A text is read by the form of appended togglers only when it begins with one of their keywords. -/
theorem exists_appendRest?_of_read? {d : Directive} (h : togglerAppendForm.read? raw = some d) :
    (∃ rest, appendRest? raw = some rest) ∧ ∃ side, d.kind = .togglerAppend side := by
  obtain ⟨keyword, rest, hmem, hrest, _⟩ := Form.exists_keyword_of_read? h
  simp only [togglerAppendForm, List.mem_cons, Prod.mk.injEq, List.not_mem_nil, or_false] at hmem
  rcases hmem with ⟨rfl, hkind⟩ | ⟨rfl, hkind⟩
  · exact ⟨⟨rest, by rw [appendRest?, hrest, Option.some_or]⟩, _, hkind⟩
  · refine ⟨Option.isSome_iff_exists.mp ?_, _, hkind⟩
    rw [appendRest?, hrest, Option.isSome_or, Option.isSome_some, Bool.or_true]

theorem Form.Apart.not_both (h : f.Apart g) : ∀ d, f.read? raw = some d → ∀ e, g.read? raw = some e → False := by
  intro d hd e he
  rw [h.read?_eq_none hd] at he
  cases he

/-- The keywords keep the forms apart, and what follows the keyword the two forms of togglers. -/
theorem pairwise_not_both (h : isAmbiguous raw = false) :
    forms.Pairwise fun f g => ∀ d, f.read? raw = some d → ∀ e, g.read? raw = some e → False := by
  have htogglers : ∀ d, togglerForm.read? raw = some d → ∀ e, togglerAppendForm.read? raw = some e → False := by
    intro d hd e he
    obtain ⟨⟨rest, hrest⟩, _⟩ := exists_appendRest?_of_read? he
    rw [read?_togglerForm_eq_none hrest h] at hd
    cases hd
  have hopen : openForm.Apart closeForm ∧ openForm.Apart togglerForm ∧ openForm.Apart togglerAppendForm ∧
      openForm.Apart tocForm := by decide +kernel
  have hclose : closeForm.Apart togglerForm ∧ closeForm.Apart togglerAppendForm ∧ closeForm.Apart tocForm := by
    decide +kernel
  have htoc : togglerForm.Apart tocForm ∧ togglerAppendForm.Apart tocForm := by decide +kernel
  simp only [forms, List.pairwise_cons, List.forall_mem_cons, List.not_mem_nil, false_imp_iff, implies_true, and_true,
    List.Pairwise.nil]
  exact ⟨⟨hopen.1.not_both, hopen.2.1.not_both, hopen.2.2.1.not_both, hopen.2.2.2.not_both⟩,
    ⟨hclose.1.not_both, hclose.2.1.not_both, hclose.2.2.not_both⟩, ⟨htogglers, htoc.1.not_both⟩, htoc.2.not_both⟩

/-- Where no two members of a list have a result, there is at most one. -/
theorem length_filterMap_le_one {α β : Type} {read : α → Option β} {l : List α}
    (h : l.Pairwise fun a b => ∀ x, read a = some x → ∀ y, read b = some y → False) :
    (l.filterMap read).length ≤ 1 := by
  have hpair : (l.filterMap read).Pairwise fun _ _ => False := List.pairwise_filterMap.mpr h
  generalize l.filterMap read = results at hpair
  match results, hpair with
  | [], _ => exact Nat.zero_le 1
  | [_], _ => exact Nat.le_refl 1
  | _ :: y :: _, hpair => exact ((List.pairwise_cons.mp hpair).1 y List.mem_cons_self).elim

/-- Where at most one member of a list has a result, the order does not count. -/
theorem findSome?_perm {α β : Type} {read : α → Option β} {l m : List α} (h : l.Perm m)
    (hone : (m.filterMap read).length ≤ 1) : l.findSome? read = m.findSome? read := by
  have hperm := h.filterMap read
  rw [← List.head?_filterMap, ← List.head?_filterMap]
  generalize m.filterMap read = results at hperm hone
  match results, hone, hperm with
  | [], _, hperm => rw [List.perm_nil.mp hperm]
  | [_], _, hperm => rw [List.perm_singleton.mp hperm]

/-- Both forms of togglers read an ambiguous text, each as a directive of its own. -/
theorem reads_both (h : isAmbiguous raw = true) : ∃ c name side param, c ≠ ',' ∧ c ≠ ' ' ∧
    togglerForm.read? raw = some ⟨.toggler, c :: name⟩ ∧
    togglerAppendForm.read? raw = some ⟨.togglerAppend side, param⟩ := by
  obtain ⟨rest, hrest, hall⟩ := (Option.any_eq_true _ _).mp h
  obtain ⟨c, name, hcomma, hblank, hread⟩ := read?_togglerForm hrest
  rw [if_pos hall] at hread
  have hfilter : (Text.trimWhile (· == ' ') rest).all allowsFilter = true := by
    rw [List.all_eq_true]
    intro d hd
    rcases Text.mem_dropEndWhile_or (p := (· == ' ')) (Text.mem_of_mem_trimWhile hd) with hd | hd
    · simp [allowsFilter, List.all_eq_true.mp hall d hd]
    · simp [allowsFilter, beq_iff_eq.mp hd]
  rcases hafter : dropKeyword? "TOGGLER.AFTER" raw with _ | u
  · have hbefore : dropKeyword? "TOGGLER.BEFORE" raw = some rest := by
      rwa [appendRest?, hafter, Option.none_or] at hrest
    exact ⟨c, name, .before, _, hcomma, hblank, hread,
      (Form.read?_cons_of_none hafter).trans (Form.read?_cons_of_all hbefore hfilter)⟩
  · obtain rfl : u = rest := by
      rw [appendRest?, hafter, Option.some_or] at hrest
      exact Option.some.inj hrest
    exact ⟨c, name, .after, _, hcomma, hblank, hread, Form.read?_cons_of_all hafter hfilter⟩

theorem Interpreter.appendsOnly_togglerAppend (i : Interpreter) (param : Text) (side : TogglerSide) :
    i.AppendsOnly (i.togglerAppend param side) := by
  have hsnippets : ∀ snippet ∈ i.togglerSnippets param side, ∃ tag style widget before : Text,
      snippet = script (i.app ++ ".get(\"UIToggler\").appendTogglerForElements(\"" ++ tag ++ "." ++ style ++
        "\", \"" ++ widget ++ "\", " ++ before ++ ");") := by
    intro snippet hmem
    obtain ⟨⟨tag, style⟩, _, rfl⟩ := List.mem_map.mp hmem
    exact ⟨tag, style, _, _, rfl⟩
  rw [togglerAppend_eq]
  split
  · trivial
  · next last hlast =>
    split
    · refine ⟨[last], by simp, ?_⟩
      simpa using hsnippets last (List.mem_of_getLast? hlast)
    · exact ⟨_, rfl, hsnippets⟩

theorem Interpreter.not_appendsOnly_openDiv (i : Interpreter) (classes : Text) (more : List Html.Attribute)
    (html : List Html.Markup) : ¬ i.AppendsOnly (.rendered (openDiv classes more :: html)) := by
  rintro ⟨snippets, he, hall⟩
  match snippets, hall, he with
  | snippet :: _, hall, he =>
    obtain ⟨tag, style, widget, before, rfl⟩ := hall snippet List.mem_cons_self
    have hname := (Html.Markup.opening.inj (List.cons.inj he).1).1
    exact absurd hname (by decide)

/-- A bare toggler with a name puts its anchor first. -/
theorem Interpreter.exists_openDiv_toggler (i : Interpreter) {c : Char} (name : Text) (hcomma : c ≠ ',')
    (hblank : c ≠ ' ') : ∃ classes more html, i.toggler (c :: name) = .rendered (openDiv classes more :: html) := by
  have hid : (TogglerArguments.parse (c :: name)).compactTarget ≠ [] := by
    unfold TogglerArguments.parse
    rw [Text.splitOn, if_neg hcomma]
    rcases Text.splitOn ',' name with _ | ⟨first, _ | ⟨second, more⟩⟩ <;>
      simp [TogglerArguments.compactTarget, hblank]
  rw [toggler, if_neg hid]
  exact ⟨_, _, _, rfl⟩

theorem interpret_ambiguous (h : isAmbiguous raw = true) (i : Interpreter) :
    ¬ i.AppendsOnly (i.interpret raw).1 := by
  obtain ⟨rest, hrest, _⟩ := (Option.any_eq_true _ _).mp h
  obtain ⟨c, name, _, _, hcomma, hblank, hread, _⟩ := reads_both h
  obtain ⟨classes, more, html, htoggler⟩ := i.exists_openDiv_toggler name hcomma hblank
  rw [Interpreter.interpret, recognize?_of_appendRest? hrest, hread, Option.some_or]
  change ¬ i.AppendsOnly (i.toggler (c :: name))
  rw [htoggler]
  exact i.not_appendsOnly_openDiv classes more html

theorem interpret_unambiguous (hrest : appendRest? raw = some rest) (h : isAmbiguous raw = false) (i : Interpreter) :
    i.AppendsOnly (i.interpret raw).1 := by
  rw [Interpreter.interpret, recognize?_of_appendRest? hrest, read?_togglerForm_eq_none hrest h, Option.none_or]
  cases hread : togglerAppendForm.read? raw with
  | none => trivial
  | some d =>
    obtain ⟨_, side, hside⟩ := exists_appendRest?_of_read? hread
    obtain ⟨_, param⟩ := d
    obtain rfl : _ = DirectiveKind.togglerAppend side := hside
    exact i.appendsOnly_togglerAppend param side

/-- An ambiguous text is read by two forms, and by another one first when the forms are tried from the end. -/
theorem exists_order_of_isAmbiguous (h : isAmbiguous raw = true) :
    1 < (forms.filterMap (·.read? raw)).length ∧ forms.reverse.findSome? (·.read? raw) ≠ recognize? raw := by
  obtain ⟨rest, hrest, _⟩ := (Option.any_eq_true _ _).mp h
  obtain ⟨c, name, side, param, _, _, htoggler, happend⟩ := reads_both h
  constructor
  · have htwo : 1 < ([togglerForm, togglerAppendForm].filterMap (·.read? raw)).length := by
      simp [htoggler, happend]
    have hsub : [togglerForm, togglerAppendForm].Sublist forms :=
      .cons _ (.cons _ (.cons_cons _ (.cons_cons _ (.cons _ .slnil))))
    exact Nat.lt_of_lt_of_le htwo (hsub.filterMap _).length_le
  · have htoc : togglerForm.Apart tocForm := by decide +kernel
    have hlast : forms.reverse.findSome? (·.read? raw) = some ⟨.togglerAppend side, param⟩ := by
      simp [forms, htoc.read?_eq_none htoggler, happend]
    rw [hlast, recognize?_of_appendRest? hrest, htoggler, Option.some_or]
    simp

/-- The order in which the forms are tried decides about ambiguous texts and about no others: they are read by two
forms, another order reads them otherwise, and of the texts that begin with the keyword of an appended toggler they
alone are bare togglers. -/
theorem forms_exclusive_iff (raw : Text) :
    ((forms.filterMap (·.read? raw)).length ≤ 1 ↔ isAmbiguous raw = false) ∧
      ((∀ order : List Form, order.Perm forms → order.findSome? (·.read? raw) = recognize? raw) ↔
        isAmbiguous raw = false) ∧
      ((appendRest? raw).isSome = true → ∀ i : Interpreter,
        i.AppendsOnly (i.interpret raw).1 ↔ isAmbiguous raw = false) := by
  refine ⟨⟨?_, ?_⟩, ⟨?_, ?_⟩, ?_⟩
  · intro hone
    refine Bool.eq_false_iff.mpr fun h => ?_
    exact absurd hone (Nat.not_le.mpr (exists_order_of_isAmbiguous h).1)
  · exact fun h => length_filterMap_le_one (pairwise_not_both h)
  · intro horder
    refine Bool.eq_false_iff.mpr fun h => ?_
    exact (exists_order_of_isAmbiguous h).2 (horder _ forms.reverse_perm)
  · exact fun h order hperm => findSome?_perm hperm (length_filterMap_le_one (pairwise_not_both h))
  · intro hstart i
    obtain ⟨rest, hrest⟩ := Option.isSome_iff_exists.mp hstart
    refine ⟨?_, fun h => interpret_unambiguous hrest h i⟩
    intro happends
    exact Bool.eq_false_iff.mpr fun h => interpret_ambiguous h i happends

/-- A colon makes it clear that a toggler is appended. -/
theorem forms_exclusive_iff_colon :
    (forms.filterMap (·.read? "toggler.After h2:x")).length ≤ 1 ∧
      (∀ order : List Form, order.Perm forms →
        order.findSome? (·.read? "toggler.After h2:x") = recognize? "toggler.After h2:x") ∧
      ∀ i : Interpreter, i.AppendsOnly (i.interpret "toggler.After h2:x").1 := by
  have hclear : isAmbiguous "toggler.After h2:x" = false := by decide +kernel
  obtain ⟨hone, horder, happends⟩ := forms_exclusive_iff "toggler.After h2:x"
  exact ⟨hone.mpr hclear, horder.mpr hclear, fun i => (happends (by decide +kernel) i).mpr hclear⟩

/-- The keyword alone is read by two forms, and it puts an anchor. -/
theorem not_forall_forms_exclusive :
    (¬ ∀ raw : Text, (forms.filterMap (·.read? raw)).length ≤ 1) ∧
      ¬ ∀ (raw : Text) (i : Interpreter), (appendRest? raw).isSome = true → i.AppendsOnly (i.interpret raw).1 := by
  constructor
  · intro h
    exact absurd (h "TOGGLER.AFTER") (by decide +kernel)
  · intro h
    have hanchor : ((Interpreter.ofConfig .default).interpret "TOGGLER.AFTER").1 =
        .rendered (openDiv "jsh-md-togglerparent md-togglerparent-.AFTER" [.of "id" "md-togglerparent-.AFTER"] ::
          .closing "div" :: script ("jshAppBase.get(\"UIToggler\").appendToggler(\".md-togglerparent-.AFTER\", " ++
            "\".md-container-.AFTER\", \"icon\");")) := by decide +kernel
    have happends := h "TOGGLER.AFTER" (.ofConfig .default) (by decide +kernel)
    rw [hanchor] at happends
    exact Interpreter.not_appendsOnly_openDiv _ _ _ _ happends

end Markweave.Directive
