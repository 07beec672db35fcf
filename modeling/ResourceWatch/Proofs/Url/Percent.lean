import ResourceWatch.Url.Parser
import ResourceWatch.Url.Path

/-!
Percent-encoding undone. What is encoded with a set that holds the percent sign decodes to the
octets of the text it was made of, so no two texts are encoded alike. No character of the set but
the percent sign and the digits is left in an encoded text, and only dots are written as dots.

Forms read back. No part of a form holds a separator, whatever text it was made of, and each part
decodes to its text once its pluses are blanks again. So the names and values that were written are
what the parts say, and an address with parameters tells which parameters it was given.
-/

namespace ResourceWatch.Url

namespace Percent

theorem hex_value_digit : ∀ value : Fin 16, Text.hexValue? (hexDigit value) = some value.val := by
  decide

theorem octet_of_digits (octet : UInt8) :
    octetOf? (hexDigit (octet.toNat / 16)) (hexDigit (octet.toNat % 16)) = some octet := by
  have bound := octet.toNat_lt
  have high := hex_value_digit ⟨octet.toNat / 16, by omega⟩
  have low := hex_value_digit ⟨octet.toNat % 16, by omega⟩
  have whole : octet.toNat / 16 * 16 + octet.toNat % 16 = octet.toNat := by omega
  simp only [octetOf?, high, low, whole, UInt8.ofNat_toNat]

theorem decode_of_octet (octet : UInt8) (rest : List Char) :
    decode (ofOctet octet ++ rest) = octet :: decode rest := by
  simp only [ofOctet, List.cons_append, List.nil_append, decode, octet_of_digits]

theorem decode_of_octets (octets : List UInt8) (rest : List Char) :
    decode (octets.flatMap ofOctet ++ rest) = octets ++ decode rest := by
  induction octets with
  | nil => rfl
  | cons octet later ih =>
      rw [List.flatMap_cons, List.append_assoc, decode_of_octet, ih, List.cons_append]

theorem decode_plain {char : Char} (plain : char ≠ '%') (rest : List Char) :
    decode (char :: rest) = Text.octets (String.singleton char) ++ decode rest := by
  rw [decode]
  intro _ _ _ mark
  exact absurd mark plain

theorem nothing_decoded {chars : List Char} (nothing : decode chars = []) : chars = [] := by
  unfold decode at nothing
  split at nothing
  · rfl
  · split at nothing
    · cases nothing
    · cases nothing
  · rename_i char rest _
    have none : Text.octets (String.singleton char) = Text.octets "" := by
      rw [(List.append_eq_nil_iff.mp nothing).1, Text.octets_empty]
    exact absurd (Text.octets_inj none) (by simp)

section Marked

variable {set : CharSet} (marks : set '%' = true)
include marks

theorem decode_of_char (char : Char) (rest : List Char) :
    decode (ofChar set char ++ rest) = Text.octets (String.singleton char) ++ decode rest := by
  unfold ofChar
  split
  · exact decode_of_octets _ rest
  · rename_i left
    have plain : char ≠ '%' := by
      rintro rfl
      exact left marks
    exact decode_plain plain rest

theorem decode_encode (chars : List Char) :
    decode (encode set chars) = Text.octets (String.ofList chars) := by
  induction chars with
  | nil => simp [encode, decode]
  | cons char rest ih =>
      have head : encode set (char :: rest) = ofChar set char ++ encode set rest := by
        simp [encode]
      rw [head, decode_of_char marks, ih, Text.octets_cons]

theorem encoded_of_decoded {chars : List Char} {text : String}
    (decoded : decode (encode set chars) = Text.octets text) : chars = text.toList := by
  rw [decode_encode marks] at decoded
  rw [← Text.octets_inj decoded, String.toList_ofList]

end Marked

theorem of_octet_chars {octet : UInt8} {char : Char} (written : char ∈ ofOctet octet) :
    char = '%' ∨ ∃ value : Fin 16, char = hexDigit value := by
  have bound := octet.toNat_lt
  simp only [ofOctet, List.mem_cons, List.not_mem_nil, or_false] at written
  rcases written with mark | high | low
  · exact .inl mark
  · exact .inr ⟨⟨octet.toNat / 16, by omega⟩, high⟩
  · exact .inr ⟨⟨octet.toNat % 16, by omega⟩, low⟩

theorem encoded_chars {set : CharSet} {chars : List Char} {char : Char}
    (written : char ∈ encode set chars) :
    set char = false ∨ char = '%' ∨ ∃ value : Fin 16, char = hexDigit value := by
  obtain ⟨source, _, made⟩ := List.mem_flatMap.mp written
  unfold ofChar at made
  split at made
  · obtain ⟨octet, _, digits⟩ := List.mem_flatMap.mp made
    exact .inr (of_octet_chars digits)
  · rename_i plain
    rw [List.mem_singleton.mp made]
    exact .inl (by simpa using plain)

end Percent

namespace Path

theorem dot_octets : Text.octets "." = [0x2E] := by
  rw [Text.octets_eq]
  rfl

theorem dot_form_decodes {form : List Char} (dot : form ∈ dotForms) (rest : List Char) :
    Percent.decode (form ++ rest) = 0x2E :: Percent.decode rest := by
  simp only [dotForms, List.mem_cons, List.not_mem_nil, or_false] at dot
  rcases dot with rfl | rfl | rfl
  · exact (Percent.decode_plain (by decide) rest).trans (congrArg (· ++ _) dot_octets)
  · rfl
  · rfl

theorem single_dot_decodes {piece : List Char} (single : isSingleDot piece = true) :
    Percent.decode piece = Text.octets "." := by
  have form : piece ∈ dotForms := by simpa [isSingleDot] using single
  have decoded := dot_form_decodes form []
  rw [List.append_nil] at decoded
  rw [decoded, dot_octets, Percent.decode]

theorem double_dot_decodes {piece : List Char} (double : isDoubleDot piece = true) :
    Percent.decode piece = Text.octets ".." := by
  obtain ⟨first, firstForm, second, secondForm, rfl⟩ :
      ∃ first ∈ dotForms, ∃ second ∈ dotForms, piece = first ++ second := by
    simpa [isDoubleDot] using double
  have dots : Text.octets ("." ++ ".") = [0x2E, 0x2E] := by
    rw [Text.octets_append, dot_octets]
    rfl
  have decoded := dot_form_decodes secondForm []
  rw [List.append_nil] at decoded
  rw [dot_form_decodes firstForm, decoded, Percent.decode]
  exact dots.symm

variable {set : Percent.CharSet} (marks : set '%' = true) {chars : List Char}
include marks

theorem single_dot_encoded (single : isSingleDot (Percent.encode set chars) = true) :
    chars = ['.'] :=
  Percent.encoded_of_decoded marks (single_dot_decodes single)

theorem double_dot_encoded (double : isDoubleDot (Percent.encode set chars) = true) :
    chars = ['.', '.'] :=
  Percent.encoded_of_decoded marks (double_dot_decodes double)

end Path

def formOctets (part : List Char) : List UInt8 :=
  Percent.decode (part.map fun char => if char = '+' then ' ' else char)

/-- A form cut into its pieces, and each piece into what its parts stand for. -/
def formParts (form : String) : List (List (List UInt8)) :=
  (form.toList.splitOn '&').map fun piece => (piece.splitOn '=').map formOctets

theorem plain_in_form {char : Char}
    (plain : (char.isAlphanum || "*-._".toList.contains char) = true) :
    char ≠ '+' ∧ char ≠ '%' ∧ char ≠ '&' ∧ char ≠ '=' := by
  refine ⟨?_, ?_, ?_, ?_⟩ <;> (rintro rfl; revert plain; decide)

theorem digit_in_form : ∀ value : Fin 16,
    Percent.hexDigit value ≠ '+' ∧ Percent.hexDigit value ≠ '&' ∧
      Percent.hexDigit value ≠ '=' := by
  decide

theorem encoded_in_form {octets : List UInt8} {char : Char}
    (written : char ∈ octets.flatMap Percent.ofOctet) :
    char ≠ '+' ∧ char ≠ '&' ∧ char ≠ '=' := by
  obtain ⟨octet, _, digits⟩ := List.mem_flatMap.mp written
  rcases Percent.of_octet_chars digits with rfl | ⟨value, rfl⟩
  · decide
  · exact digit_in_form value

section Parts

theorem form_octets_encoded (octets : List UInt8) (rest : List Char) :
    formOctets (octets.flatMap Percent.ofOctet ++ rest) = octets ++ formOctets rest := by
  have kept : (octets.flatMap Percent.ofOctet).map (fun char => if char = '+' then ' ' else char) =
      (octets.flatMap Percent.ofOctet).map id :=
    List.map_congr_left fun char written => if_neg (encoded_in_form written).1
  rw [formOctets, List.map_append, kept, List.map_id, Percent.decode_of_octets, formOctets]

theorem form_octets_char (char : Char) (rest : List Char) :
    formOctets (formChar char ++ rest) =
      Text.octets (String.singleton char) ++ formOctets rest := by
  unfold formChar
  split
  · rename_i blank
    rw [beq_iff_eq.mp blank]
    exact Percent.decode_plain (by decide) _
  · split
    · rename_i plain
      obtain ⟨plus, mark, _⟩ := plain_in_form plain
      rw [formOctets, List.singleton_append, List.map_cons, if_neg plus]
      exact Percent.decode_plain mark _
    · exact form_octets_encoded _ rest

theorem form_octets_text (text : String) :
    formOctets (formText text).toList = Text.octets text := by
  have read (chars : List Char) :
      formOctets (chars.flatMap formChar) = Text.octets (String.ofList chars) := by
    induction chars with
    | nil => rw [String.ofList_nil, Text.octets_empty]; rfl
    | cons char rest ih => rw [List.flatMap_cons, form_octets_char, ih, Text.octets_cons]
  rw [formText, String.toList_ofList, read, String.ofList_toList]

theorem separators_not_in_form (text : String) {char : Char}
    (written : char ∈ (formText text).toList) : char ≠ '&' ∧ char ≠ '=' := by
  rw [formText, String.toList_ofList] at written
  obtain ⟨source, _, made⟩ := List.mem_flatMap.mp written
  unfold formChar at made
  split at made
  · rw [List.mem_singleton.mp made]
    decide
  · split at made
    · rename_i plain
      rw [List.mem_singleton.mp made]
      exact (plain_in_form plain).2.2
    · exact (encoded_in_form made).2

end Parts

section Pairs

theorem form_piece_split (pair : String × String) :
    (formText pair.1 ++ "=" ++ formText pair.2).toList.splitOn '=' =
      [(formText pair.1).toList, (formText pair.2).toList] := by
  have apart : ∀ part ∈ [(formText pair.1).toList, (formText pair.2).toList], '=' ∉ part := by
    intro part listed inside
    simp only [List.mem_cons, List.not_mem_nil, or_false] at listed
    rcases listed with rfl | rfl
    · exact (separators_not_in_form _ inside).2 rfl
    · exact (separators_not_in_form _ inside).2 rfl
  have joined := List.splitOn_intercalate '=' apart (by simp)
  simpa [List.intercalate] using joined

theorem form_parts_of_form {pairs : List (String × String)} (given : pairs ≠ []) :
    formParts (form pairs) = pairs.map fun pair => [Text.octets pair.1, Text.octets pair.2] := by
  let pieces := pairs.map fun pair => (formText pair.1 ++ "=" ++ formText pair.2).toList
  have whole : (form pairs).toList = ['&'].intercalate pieces := by
    rw [form, String.toList_intercalate, List.map_map]
    rfl
  have apart : ∀ piece ∈ pieces, '&' ∉ piece := by
    intro piece listed inside
    obtain ⟨pair, _, rfl⟩ := List.mem_map.mp listed
    rw [String.toList_append, String.toList_append, List.mem_append, List.mem_append] at inside
    rcases inside with (name | mark) | value
    · exact (separators_not_in_form _ name).1 rfl
    · exact absurd mark (by decide)
    · exact (separators_not_in_form _ value).1 rfl
  have cut : (form pairs).toList.splitOn '&' = pieces := by
    rw [whole, List.splitOn_intercalate '&' apart (by simpa [pieces] using given)]
  rw [formParts, cut, List.map_map]
  refine List.map_congr_left fun pair _ => ?_
  rw [Function.comp_apply, form_piece_split, List.map_cons, List.map_singleton, form_octets_text,
    form_octets_text]

theorem form_inj {pairs others : List (String × String)} (given : pairs ≠ []) (also : others ≠ [])
    (same : form pairs = form others) : pairs = others := by
  have read := congrArg formParts same
  rw [form_parts_of_form given, form_parts_of_form also] at read
  refine (List.map_inj_right fun pair other equal => ?_).mp read
  simp only [List.cons.injEq, and_true] at equal
  exact Prod.ext (Text.octets_inj equal.1) (Text.octets_inj equal.2)

theorem with_parameters_form {url : Url} {pairs others : List (String × String)}
    (same : url.withParameters pairs = url.withParameters others) : form pairs = form others := by
  have queries := congrArg Url.query same
  unfold withParameters at queries
  split at queries
  · split at queries
    · exact Option.some.inj queries
    · exact (String.append_right_inj _).mp (Option.some.inj queries)
  · exact Option.some.inj queries

end Pairs

end ResourceWatch.Url
