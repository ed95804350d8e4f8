/-!
# Byte offsets

Places in a text are counted in bytes of its UTF-8 form. An offset lies between two characters or
inside one; a text can be cut only between characters.

## Main definitions

* `byteSize`: the bytes that characters take
* `splitAtByte?`: the characters before an offset and those after it
-/

namespace ScriptSteps.Text

/-- The bytes that characters take in UTF-8. -/
def byteSize : List Char → Nat
  | [] => 0
  | c :: cs => c.utf8Size + byteSize cs

@[simp] theorem byteSize_nil : byteSize [] = 0 := rfl

@[simp] theorem byteSize_cons (c : Char) (cs : List Char) :
    byteSize (c :: cs) = c.utf8Size + byteSize cs := rfl

@[simp] theorem byteSize_append (cs ds : List Char) :
    byteSize (cs ++ ds) = byteSize cs + byteSize ds := by
  induction cs with
  | nil => simp
  | cons c cs ih => simp [ih, Nat.add_assoc]

/-- The characters before an offset and those after it; none if the offset lies inside a character
or beyond the end. -/
def splitAtByte? (offset : Nat) : List Char → Option (List Char × List Char)
  | [] => if offset = 0 then some ([], []) else none
  | c :: cs =>
    if offset = 0 then some ([], c :: cs)
    else if offset < c.utf8Size then none
    else (splitAtByte? (offset - c.utf8Size) cs).map fun (before, after) => (c :: before, after)

@[simp] theorem splitAtByte?_zero (cs : List Char) : splitAtByte? 0 cs = some ([], cs) := by
  cases cs <;> simp [splitAtByte?]

/-- A text can be cut where two texts were joined. -/
@[simp] theorem splitAtByte?_byteSize (before after : List Char) :
    splitAtByte? (byteSize before) (before ++ after) = some (before, after) := by
  induction before with
  | nil => simp
  | cons c cs ih =>
    have positive : 0 < c.utf8Size := Char.utf8Size_pos c
    have nonzero : ¬ c.utf8Size + byteSize cs = 0 := by omega
    have notInside : ¬ c.utf8Size + byteSize cs < c.utf8Size := by omega
    rw [List.cons_append, byteSize_cons, splitAtByte?, if_neg nonzero, if_neg notInside,
      Nat.add_sub_cancel_left, ih]
    rfl

/-- What a cut gives are the two parts of the text, the first as long as the offset says. -/
theorem splitAtByte?_eq_some {offset : Nat} {cs before after : List Char}
    (h : splitAtByte? offset cs = some (before, after)) :
    cs = before ++ after ∧ byteSize before = offset := by
  induction cs generalizing offset before with
  | nil =>
    simp only [splitAtByte?] at h
    split at h
    · simp_all
    · simp at h
  | cons c cs ih =>
    simp only [splitAtByte?] at h
    split at h
    · simp_all
    · split at h
      · simp at h
      · obtain ⟨⟨rest, after'⟩, hrest, heq⟩ := Option.map_eq_some_iff.1 h
        obtain ⟨rfl, rfl⟩ := Prod.mk.inj heq
        obtain ⟨rfl, hsize⟩ := ih hrest
        exact ⟨rfl, by simp only [byteSize_cons]; omega⟩

end ScriptSteps.Text
