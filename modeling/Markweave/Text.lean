namespace Markweave

/-- A literal is a text wherever one is expected. -/
abbrev Text := List Char

instance : Coe String Text := ⟨String.toList⟩

namespace Text

/-- What is left of a text after a given beginning. -/
def dropStart? : Text → Text → Option Text
  | [], s => some s
  | _ :: _, [] => none
  | p :: ps, c :: cs => if p = c then dropStart? ps cs else none

theorem eq_append_of_dropStart? {p s r : Text} (h : dropStart? p s = some r) : s = p ++ r := by
  induction p generalizing s with
  | nil => simp only [dropStart?, Option.some.injEq] at h; simp [h]
  | cons c p ih =>
    cases s with
    | nil => simp [dropStart?] at h
    | cons d s =>
      by_cases hc : c = d
      · subst hc
        simp only [dropStart?, if_true] at h
        simp [ih h]
      · simp [dropStart?, hc] at h

def startsWith (p s : Text) : Bool := (dropStart? p s).isSome

/-- The parts before and after the first occurrence of a needle. -/
def cut? (needle : Text) : Text → Option (Text × Text)
  | [] => (dropStart? needle []).map ([], ·)
  | c :: cs =>
    match dropStart? needle (c :: cs) with
    | some rest => some ([], rest)
    | none => (cut? needle cs).map fun (before, after) => (c :: before, after)

theorem eq_append_of_cut? {n s a b : Text} (h : cut? n s = some (a, b)) : s = a ++ n ++ b := by
  induction s generalizing a with
  | nil =>
    simp only [cut?, Option.map_eq_some_iff, Prod.mk.injEq] at h
    obtain ⟨r, hr, rfl, rfl⟩ := h
    simpa using eq_append_of_dropStart? hr
  | cons c s ih =>
    simp only [cut?] at h
    split at h
    · next hd =>
      simp only [Option.some.injEq, Prod.mk.injEq] at h
      obtain ⟨rfl, rfl⟩ := h
      simpa using eq_append_of_dropStart? hd
    · simp only [Option.map_eq_some_iff, Prod.mk.injEq, Prod.exists] at h
      obtain ⟨x, y, hxy, rfl, rfl⟩ := h
      simp [ih hxy]

def contains (needle s : Text) : Bool := (cut? needle s).isSome

/-- Every occurrence of `old`, from the left and without overlap, becomes `new`; an empty `old`
leaves the text alone. -/
def replace (old new s : Text) : Text :=
  match old with
  | [] => s
  | o :: os =>
    match _cut : cut? (o :: os) s with
    | none => s
    | some (before, after) => before ++ new ++ replace (o :: os) new after
termination_by s.length
decreasing_by
  have := congrArg List.length (eq_append_of_cut? _cut)
  simp only [List.length_append, List.length_cons] at this
  omega

/-- The segments between the separators; there is always one more segment than separators. -/
def splitOn (sep : Char) : Text → List Text
  | [] => [[]]
  | c :: cs =>
    if c = sep then [] :: splitOn sep cs
    else match splitOn sep cs with
      | [] => [[c]]
      | segment :: more => (c :: segment) :: more

def joinWith (sep : Char) (segments : List Text) : Text := [sep].intercalate segments

def dropEndWhile (p : Char → Bool) (s : Text) : Text := (s.reverse.dropWhile p).reverse

/-- Cuts the characters of a class off both ends. -/
def trimWhile (p : Char → Bool) (s : Text) : Text := dropEndWhile p (s.dropWhile p)

def isHexDigit (c : Char) : Bool :=
  c.isDigit || ('a' ≤ c && c ≤ 'f') || ('A' ≤ c && c ≤ 'F')

/-- What a digit counts; letters of either case count from ten. -/
def digitValue (c : Char) : Nat :=
  if c.isDigit then c.toNat - 48 else if c.toNat < 97 then c.toNat - 55 else c.toNat - 87

def valueOf (base : Nat) (digits : Text) : Nat := digits.foldl (fun n c => n * base + digitValue c) 0

def ofHex (n : Nat) : Text := Nat.toDigits 16 n

def ofNat (n : Nat) : Text := Nat.toDigits 10 n

theorem ofNat_injective {m n : Nat} (h : ofNat m = ofNat n) : m = n := by
  have hdigits := congrArg (fun ds => Nat.ofDigitChars 10 ds 0) h
  simp only [ofNat, Nat.ofDigitChars_toDigits (show 1 < 10 by decide) (Nat.le_refl 10)] at hdigits
  exact hdigits

end Text
end Markweave
