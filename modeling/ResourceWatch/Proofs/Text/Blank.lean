import ResourceWatch.Text

/-!
What stripping leaves of a list of characters, what trimming leaves of a text, and which characters
have a given capital. The list is what is left with characters around it that satisfy the test, and a
part of it is what is left when all around it satisfies the test and neither of its own ends does.
-/

namespace ResourceWatch.Text

section Strip

variable {test : Char → Bool}

theorem strip_list_inside (test : Char → Bool) (chars : List Char) :
    ∃ before after, chars = before ++ stripList test chars ++ after ∧
      (∀ char ∈ before, test char = true) ∧ ∀ char ∈ after, test char = true := by
  let inner := chars.dropWhile test
  have taken (list : List Char) : ∀ char ∈ list.takeWhile test, test char = true :=
    List.all_eq_true.mp List.all_takeWhile
  refine ⟨chars.takeWhile test, (inner.reverse.takeWhile test).reverse, ?_, taken chars, ?_⟩
  · have behind : stripList test chars ++ (inner.reverse.takeWhile test).reverse = inner := by
      rw [stripList, ← List.reverse_append, List.takeWhile_append_dropWhile, List.reverse_reverse]
    rw [List.append_assoc, behind, List.takeWhile_append_dropWhile]
  · intro char behind
    exact taken inner.reverse char (List.mem_reverse.mp behind)

theorem drop_while_stops {list : List Char} (stops : ∀ char ∈ list.head?, test char = false) :
    list.dropWhile test = list := by
  cases list with
  | nil => rfl
  | cons first rest => exact List.dropWhile_cons_of_neg (by simp [stops first rfl])

theorem strip_list_of_around {before word after : List Char}
    (front : ∀ char ∈ before, test char = true) (back : ∀ char ∈ after, test char = true)
    (starts : ∀ char ∈ word.head?, test char = false)
    (ends : ∀ char ∈ word.getLast?, test char = false) :
    stripList test (before ++ word ++ after) = word := by
  have reversed : ∀ char ∈ after.reverse, test char = true :=
    fun char inside => back char (List.mem_reverse.mp inside)
  rw [stripList, List.append_assoc, List.dropWhile_append_of_pos front]
  cases word with
  | nil =>
      have nothing : (after ++ []).dropWhile test = [] := List.dropWhile_append_of_pos back
      rw [List.append_nil] at nothing
      rw [List.nil_append, nothing]
      rfl
  | cons first rest =>
      have stops : ∀ char ∈ (first :: rest ++ after).head?, test char = false := starts
      rw [drop_while_stops stops, List.reverse_append, List.dropWhile_append_of_pos reversed,
        drop_while_stops, List.reverse_reverse]
      rwa [List.head?_reverse]

theorem strip_list_ends (test : Char → Bool) (chars : List Char) :
    ∀ char ∈ (stripList test chars).getLast?, test char = false := by
  intro char ends
  have stops := List.head?_dropWhile_not test (chars.dropWhile test).reverse
  rw [stripList, List.getLast?_reverse] at ends
  rw [Option.mem_def.mp ends] at stops
  exact stops

theorem strip_list_starts (test : Char → Bool) (chars : List Char) :
    ∀ char ∈ (stripList test chars).head?, test char = false := by
  intro char starts
  have stops := List.head?_dropWhile_not test chars
  -- What is dropped from the back leaves the front as it is, unless it leaves nothing.
  have front : stripList test chars <+: chars.dropWhile test := by
    rw [← List.reverse_suffix, stripList, List.reverse_reverse]
    exact List.dropWhile_suffix test
  obtain ⟨back, whole⟩ := front
  rw [← whole, List.head?_append, Option.mem_def.mp starts] at stops
  exact stops

theorem drop_while_spares {before : List Char} {char : Char}
    (spared : test char = true → ∃ other ∈ before, test other = false) (after : List Char) :
    ∃ left, (before ++ char :: after).dropWhile test = left ++ char :: after := by
  induction before with
  | nil =>
      have stops : test char = false := by
        cases satisfied : test char with
        | false => rfl
        | true => simpa using spared satisfied
      exact ⟨[], drop_while_stops (by simpa using stops)⟩
  | cons first rest ih =>
      cases satisfied : test first with
      | false => exact ⟨first :: rest, drop_while_stops (by simpa using satisfied)⟩
      | true =>
          rw [List.cons_append, List.dropWhile_cons_of_pos satisfied]
          apply ih
          intro also
          obtain ⟨other, inside, fails⟩ := spared also
          rcases List.mem_cons.mp inside with rfl | behind
          · rw [satisfied] at fails
            cases fails
          · exact ⟨other, behind, fails⟩

theorem mem_strip_list {before after : List Char} {char : Char}
    (kept : test char = true →
      (∃ other ∈ before, test other = false) ∧ ∃ other ∈ after, test other = false) :
    char ∈ stripList test (before ++ char :: after) := by
  obtain ⟨left, front⟩ := drop_while_spares (fun satisfied => (kept satisfied).1) after
  have behind : test char = true → ∃ other ∈ after.reverse, test other = false := by
    intro satisfied
    obtain ⟨other, inside, fails⟩ := (kept satisfied).2
    exact ⟨other, List.mem_reverse.mpr inside, fails⟩
  obtain ⟨right, back⟩ := drop_while_spares behind left.reverse
  rw [stripList, front, List.reverse_append, List.reverse_cons, List.append_assoc,
    List.singleton_append, back]
  simp

end Strip

section Trim

/-- A text without the blanks around it: all that it lacks is blank, and neither of its ends is. -/
structure TrimsTo (text kept : String) : Prop where
  around : ∃ before after, text.toList = before ++ kept.toList ++ after ∧
    (∀ char ∈ before, isBlank char = true) ∧ ∀ char ∈ after, isBlank char = true
  starts : ∀ char ∈ kept.toList.head?, isBlank char = false
  ends : ∀ char ∈ kept.toList.getLast?, isBlank char = false

theorem trim_iff (text kept : String) : trim text = kept ↔ TrimsTo text kept := by
  constructor
  · rintro rfl
    have chars : (trim text).toList = stripList isBlank text.toList := String.toList_ofList
    constructor
    · rw [chars]
      exact strip_list_inside isBlank text.toList
    · rw [chars]
      exact strip_list_starts isBlank text.toList
    · rw [chars]
      exact strip_list_ends isBlank text.toList
  · rintro ⟨⟨before, after, whole, front, back⟩, starts, ends⟩
    rw [trim, whole, strip_list_of_around front back starts ends, String.ofList_toList]

theorem trim_empty_iff (text : String) :
    trim text = "" ↔ ∀ char ∈ text.toList, isBlank char = true := by
  rw [trim_iff]
  constructor
  · rintro ⟨⟨before, after, whole, front, back⟩, _, _⟩ char inside
    rw [whole] at inside
    rcases List.mem_append.mp inside with early | late
    · exact front char (by simpa using early)
    · exact back char late
  · intro blank
    refine ⟨⟨text.toList, [], by simp, blank, by simp⟩, by simp, by simp⟩

end Trim

section Capitals

theorem upper_iff (char : Char) :
    char.isUpper = true ↔ 65 ≤ char.toNat ∧ char.toNat ≤ 90 := by
  have range : char.isUpper = decide ('A'.val ≤ char.val ∧ char.val ≤ 'Z'.val) := rfl
  rw [range, decide_eq_true_eq, UInt32.le_iff_toNat_le, UInt32.le_iff_toNat_le]
  exact Iff.rfl

theorem lower_iff (char : Char) :
    char.isLower = true ↔ 97 ≤ char.toNat ∧ char.toNat ≤ 122 := by
  have range : char.isLower = (decide ('a'.val ≤ char.val) && decide (char.val ≤ 'z'.val)) := rfl
  rw [range, Bool.and_eq_true, decide_eq_true_eq, decide_eq_true_eq, UInt32.le_iff_toNat_le,
    UInt32.le_iff_toNat_le]
  exact Iff.rfl

theorem to_nat_lower (char : Char) :
    char.toLower.toNat = if char.isUpper then char.toNat + 32 else char.toNat := by
  unfold Char.toLower
  split
  · rename_i inside
    have upper : char.isUpper = true := decide_eq_true inside
    have range := (upper_iff char).mp upper
    have sum : (char.val + ('a'.val - 'A'.val)).toNat = (char.toNat + 32) % 2 ^ 32 :=
      UInt32.toNat_add ..
    rw [if_pos upper]
    exact sum.trans (by omega)
  · rename_i outside
    have other : char.isUpper = false := decide_eq_false outside
    simp only [other, Bool.false_eq_true, if_false]

theorem to_nat_capital (char : Char) :
    (capital char).toNat = if char.isLower then char.toNat - 32 else char.toNat := by
  have small : 'a' ≤ char ∧ char ≤ 'z' ↔ char.isLower = true := (lower_iff char).symm
  simp only [capital, small]
  split
  · rename_i lower
    have valid : (char.toNat - 32).isValidChar := by
      have range := (lower_iff char).mp lower
      exact .inl (by omega)
    have made : Char.ofNat (char.toNat - 32) = Char.ofNatAux _ valid := dif_pos valid
    rw [made]
    rfl
  · rfl

theorem capital_eq_iff {char letter : Char} (upper : letter.isUpper = true) :
    capital char = letter ↔ char.toLower = letter.toLower := by
  have capitals := (upper_iff letter).mp upper
  simp only [← Char.toNat_inj, to_nat_capital, to_nat_lower, upper, upper_iff, lower_iff, if_true]
  split <;> split <;> omega

theorem capitals_eq_iff {chars letters : List Char}
    (upper : ∀ letter ∈ letters, letter.isUpper = true) :
    chars.map capital = letters ↔ chars.map Char.toLower = letters.map Char.toLower := by
  induction chars generalizing letters with
  | nil => simp [eq_comm]
  | cons char rest ih =>
      cases letters with
      | nil => simp
      | cons letter others =>
          have more : rest.map capital = others ↔ _ := ih fun other inside =>
            upper other (List.mem_cons_of_mem _ inside)
          simp only [List.map_cons, List.cons.injEq, capital_eq_iff (upper letter (by simp)), more]

theorem not_blank_of_capital {char : Char} (upper : (capital char).isUpper = true) :
    isBlank char = false := by
  rw [upper_iff, to_nat_capital] at upper
  have range : 65 ≤ char.toNat ∧ char.toNat ≤ 122 := by
    split at upper <;> omega
  simp only [isBlank, Bool.or_eq_false_iff, Bool.and_eq_false_iff, beq_eq_false_iff_ne,
    decide_eq_false_iff_not]
  omega

theorem capital_eq_self {char : Char} (lower : char.isLower = false) : capital char = char := by
  rw [← Char.toNat_inj, to_nat_capital, lower]
  rfl

end Capitals

end ResourceWatch.Text
