import ResourceWatch.Proofs.Url.Percent
import ResourceWatch.Url.Parser

/-!
What lies one segment below an address. An identifier that is not made of dots alone and has no tabs
and line breaks becomes one segment that decodes to it, except below a path of two empty segments
and, where a drive letter would be looked for, when it looks like one.
-/

namespace ResourceWatch.Url

def folder (names : List String) : List String :=
  if names.getLast? == some "" then names.dropLast else names

def segmentsBefore (names : List String) : List String :=
  if withoutEmptyEnd names == [""] then [] else withoutEmptyEnd names

def segmentSet (scheme : String) : Percent.CharSet :=
  if isSpecialScheme scheme then Percent.inSpecialSegment else Percent.inSegment

def endsSegment (scheme : String) (char : Char) : Bool :=
  Path.separates scheme char || Parser.endsPath char

/-- An address that differs from another one in its path only, which is one segment longer. The
segment decodes to the identifier and is not parted when it is read. -/
def IsOneBelow (url : Url) (names : List String) (id : String) (item : Url) : Prop :=
  ∃ segment : String,
    item = { url with path := .segments (folder names ++ [segment]) } ∧
    Percent.decode segment.toList = Text.octets id ∧
    ∀ char ∈ segment.toList, endsSegment url.scheme char = false

/-- The identifiers that have an address one segment below. -/
structure Addressable (scheme : String) (names : List String) (id : String) : Prop where
  undotted : id ≠ "." ∧ id ≠ ".."
  unbroken : ∀ char ∈ id.toList, isBreak char = false
  rooted : names ≠ ["", ""]
  noDrive : scheme = "file" → folder names = [] →
    ∀ letter : Char, letter.isAlpha = true → id.toList ≠ [letter, '|']

section Folder

/-- How a path ends: it has no segments, or is a root, or ends with a slash, or with a name. -/
inductive Ends : List String → Prop where
  | nowhere : Ends []
  | root : Ends [""]
  | slash (front : List String) (inner : front ≠ []) : Ends (front ++ [""])
  | name (front : List String) (last : String) (named : last ≠ "") : Ends (front ++ [last])

theorem how_ends (names : List String) : Ends names := by
  rcases List.eq_nil_or_concat names with rfl | ⟨front, last, rfl⟩
  · exact .nowhere
  · rw [List.concat_eq_append]
    by_cases slashed : last = ""
    · subst slashed
      cases front with
      | nil => exact .root
      | cons first more => exact .slash _ (List.cons_ne_nil first more)
    · exact .name front last slashed

variable {front : List String}

theorem folder_slashed : folder (front ++ [""]) = front := by
  simp [folder]

theorem folder_named {last : String} (named : last ≠ "") :
    folder (front ++ [last]) = front ++ [last] := by
  simp [folder, named]

theorem without_empty_end_slashed (inner : front ≠ []) :
    withoutEmptyEnd (front ++ [""]) = front := by
  have long : 0 < front.length := List.length_pos_iff.mpr inner
  simp [withoutEmptyEnd, long]

theorem without_empty_end_named {last : String} (named : last ≠ "") :
    withoutEmptyEnd (front ++ [last]) = front ++ [last] := by
  simp [withoutEmptyEnd, named]

variable {names : List String}

theorem segments_before (rooted : names ≠ ["", ""]) : segmentsBefore names = folder names := by
  cases how_ends names with
  | nowhere => rfl
  | root => rfl
  | slash front inner =>
      -- Of two empty segments the first would be taken for that of a root.
      have apart : front ≠ [""] := by
        rintro rfl
        exact rooted rfl
      simp [segmentsBefore, folder_slashed, without_empty_end_slashed inner, apart]
  | name front last named =>
      have apart : front ++ [last] ≠ [""] := by
        intro same
        have lasts := congrArg List.getLast? same
        simp at lasts
        exact named lasts
      simp [segmentsBefore, folder_named named, without_empty_end_named named, apart]

theorem folder_of_head (head : segmentsBefore names = []) :
    folder names = [] ∨ folder names = [""] := by
  by_cases rooted : names = ["", ""]
  · subst rooted
    exact .inr rfl
  · exact .inl ((segments_before rooted).symm.trans head)

theorem last_below {segment : String}
    (same : withoutEmptyEnd names = folder names ++ [segment]) : segment = "" := by
  cases how_ends names with
  | nowhere => exact absurd (congrArg List.length same) (by simp [withoutEmptyEnd])
  | root => exact (List.singleton_inj.mp same).symm
  | slash front inner =>
      rw [folder_slashed, without_empty_end_slashed inner] at same
      simp at same
  | name front last named =>
      rw [folder_named named, without_empty_end_named named] at same
      simp at same

end Folder

section Set

variable (scheme : String)

theorem set_marks : segmentSet scheme '%' = true := by
  unfold segmentSet
  split <;> decide

theorem set_parts {char : Char} (parts : endsSegment scheme char = true) :
    segmentSet scheme char = true ∧ char ≠ '%' ∧
      ∀ value : Fin 16, char ≠ Percent.hexDigit value := by
  have which : char = '/' ∨ char = '?' ∨ char = '#' ∨
      isSpecialScheme scheme = true ∧ char = '\\' := by
    simp only [endsSegment, Path.separates, Parser.endsPath, Bool.or_eq_true, Bool.and_eq_true,
      beq_iff_eq] at parts
    rcases parts with (slash | back) | query | fragment
    · exact .inl slash
    · exact .inr (.inr (.inr back))
    · exact .inr (.inl query)
    · exact .inr (.inr (.inl fragment))
  unfold segmentSet
  rcases which with rfl | rfl | rfl | ⟨special, rfl⟩
  · exact ⟨by split <;> decide, by decide, by decide⟩
  · exact ⟨by split <;> decide, by decide, by decide⟩
  · exact ⟨by split <;> decide, by decide, by decide⟩
  · rw [if_pos special]
    exact ⟨by decide, by decide, by decide⟩

theorem encoded_unparted {chars : List Char} {char : Char}
    (written : char ∈ Percent.encode (segmentSet scheme) chars) :
    endsSegment scheme char = false := by
  rw [← Bool.not_eq_true]
  intro parts
  obtain ⟨held, noMark, noDigit⟩ := set_parts scheme parts
  rcases Percent.encoded_chars written with left | mark | ⟨value, digit⟩
  · rw [held] at left
    cases left
  · exact noMark mark
  · exact noDigit value digit

end Set

namespace Path

/-- Where the walk goes with a text at the end of a path. Only what is `named` or a `drive` is one
segment more. -/
inductive Lands (set : Percent.CharSet) (ofFile : Bool) (before : List String) (text : List Char) :
    List String → Prop where
  | named (noDrive : ofFile = true → before = [] → isDriveLetter (withoutBreaks text) = false) :
      Lands set ofFile before text
        (before ++ [String.ofList (Percent.encode set (withoutBreaks text))])
  | dotted (front : List String) (back : front.length ≤ before.length)
      (dots : withoutBreaks text = ['.'] ∨ withoutBreaks text = ['.', '.']) :
      Lands set ofFile before text (front ++ [""])
  | drive (letter mark : Char) (head : before = [])
      (inFile : ofFile = true) (counted : withoutBreaks text = [letter, mark])
      (alpha : letter.isAlpha = true) (marks : mark = ':' ∨ mark = '|') :
      Lands set ofFile before text [String.ofList [letter, ':']]
  | cut (name rest : String) (head : before = []) (named : name ≠ "")
      (broken : withoutBreaks text ≠ text) : Lands set ofFile before text [name, rest]

section Step

variable {set : Percent.CharSet} (marks : set '%' = true)

theorem counted_whole {text : List Char} (unbroken : ∀ char ∈ text, isBreak char = false) :
    withoutBreaks text = text := by
  rw [withoutBreaks, List.filter_eq_self]
  intro char inside
  simp [unbroken char inside]

theorem unbroken_of_whole {text : List Char} (whole : withoutBreaks text = text) :
    ∀ char ∈ text, isBreak char = false := by
  intro char inside
  rw [← whole] at inside
  simpa using (List.mem_filter.mp inside).2

theorem cut_drive {text drive rest : List Char} (cuts : cutDrive? text = some (drive, rest)) :
    String.ofList drive ≠ "" ∧ withoutBreaks text ≠ text := by
  unfold cutDrive? at cuts
  split at cuts
  · rename_i letter next after counted
    simp only at cuts
    split at cuts
    · rename_i cut
      cases cuts
      refine ⟨by simp [← String.toList_inj], ?_⟩
      intro whole
      simp only [Bool.and_eq_true] at cut
      cases found : ((text.dropWhile (· != ':')).drop 1).head? with
      | none =>
          rw [found] at cut
          cases cut.2
      | some char =>
          -- What the drive letter is cut off by stands in the text.
          have inside : char ∈ text :=
            (List.dropWhile_sublist _).subset (List.mem_of_mem_drop (List.mem_of_head? found))
          have kept := unbroken_of_whole whole char inside
          rw [found] at cut
          exact Bool.false_ne_true (kept.symm.trans cut.2)
    · cases cuts
  · cases cuts

theorem back_shorter (names : List String) : (back names).length ≤ names.length := by
  cases names with
  | nil => exact Nat.le_refl 0
  | cons last before =>
      simp only [back]
      split
      · exact Nat.le_refl _
      · simp

theorem drive_letter_shape {name : List Char} (drive : isDriveLetter name = true) :
    ∃ letter mark, name = [letter, mark] ∧ letter.isAlpha = true ∧ (mark = ':' ∨ mark = '|') := by
  unfold isDriveLetter at drive
  split at drive
  · rename_i letter mark
    exact ⟨letter, mark, rfl, by simpa using drive⟩
  · cases drive

include marks

theorem plain_lands (ofFile : Bool) (before : List String) (text : List Char)
    (noDrive : ofFile = true → before = [] → isDriveLetter (withoutBreaks text) = false) :
    Lands set ofFile before text ((Walk.along before).plain
      (Percent.encode set (withoutBreaks text)) true).names := by
  simp only [Walk.plain, Walk.along, Walk.names]
  cases double : isDoubleDot (Percent.encode set (withoutBreaks text)) with
  | true =>
      have shorter := back_shorter before.reverse
      have landed : Lands set ofFile before text ((back before.reverse).reverse ++ [""]) :=
        .dotted _ (by simpa using shorter) (.inr (double_dot_encoded marks double))
      simpa using landed
  | false =>
      cases single : isSingleDot (Percent.encode set (withoutBreaks text)) with
      | true =>
          have landed : Lands set ofFile before text (before ++ [""]) :=
            .dotted _ (Nat.le_refl _) (.inl (single_dot_encoded marks single))
          simpa using landed
      | false => simpa using Lands.named noDrive

theorem step_lands (ofFile : Bool) (before : List String) (text : List Char) :
    Lands set ofFile before text ((Walk.along before).step set ofFile text true).names := by
  unfold Walk.step
  cases atHead : ofFile && (Walk.along before).latest.isEmpty with
  | false =>
      refine plain_lands marks ofFile before text ?_
      rintro rfl rfl
      cases atHead
  | true =>
      obtain ⟨rfl, head⟩ : ofFile = true ∧ before = [] := by
        simpa [Walk.along] using atHead
      -- At the head of a file a drive letter is kept as it is, or cut off from what follows it.
      cases drives : isDriveLetter (withoutBreaks text) with
      | true =>
          obtain ⟨letter, mark, counted, alpha, which⟩ := drive_letter_shape drives
          have shown : isDriveLetter [letter, mark] = true := counted ▸ drives
          have landed : Lands set true before text [String.ofList [letter, ':']] :=
            .drive letter mark head rfl counted alpha which
          simpa [counted, shown, Walk.names] using landed
      | false =>
          cases cuts : cutDrive? text with
          | some parts =>
              obtain ⟨named, broken⟩ := cut_drive cuts
              have landed : Lands set true before text
                  [String.ofList parts.1, String.ofList (Percent.encode set parts.2)] :=
                .cut _ _ head named broken
              simpa [drives, Walk.names] using landed
          | none => simpa [drives] using plain_lands marks true before text fun _ _ => drives

end Step

end Path

section Item

variable {scheme : String} {names : List String} {id : String}

variable (scheme names) in
theorem extended_lands (undotted : id ≠ "." ∧ id ≠ "..") :
    Path.Lands (segmentSet scheme) (scheme == "file") (segmentsBefore names) id.toList
      (extended scheme (withoutEmptyEnd names) id) := by
  have walks : extended scheme (withoutEmptyEnd names) id =
      ((Path.Walk.along (segmentsBefore names)).step (segmentSet scheme) (scheme == "file")
        id.toList true).names := by
    rw [extended, if_neg (by simp [undotted])]
    rfl
  rw [walks]
  exact Path.step_lands (set_marks scheme) _ _ _

section Drive

variable {letter : Char} (alpha : letter.isAlpha = true)
include alpha

theorem letter_apart {char : Char} (other : char.isAlpha = false) : letter ≠ char := by
  rintro rfl
  exact Bool.false_ne_true (other.symm.trans alpha)

theorem drive_decodes :
    Percent.decode [letter, ':'] = Text.octets (String.ofList [letter, ':']) := by
  rw [Percent.decode_plain (letter_apart alpha (by decide)), Percent.decode_plain (by decide),
    Text.octets_cons, Text.octets_cons]
  simp [Percent.decode]

theorem letter_differs (char : Char) (other : char.isAlpha = false) : (letter == char) = false :=
  beq_false_of_ne (letter_apart alpha other)

theorem drive_unparted : ∀ char ∈ [letter, ':'], endsSegment scheme char = false := by
  intro char written
  simp only [List.mem_cons, List.not_mem_nil, or_false] at written
  rcases written with rfl | rfl
  · simp [endsSegment, Path.separates, Parser.endsPath, letter_differs alpha]
  · simp [endsSegment, Path.separates, Parser.endsPath]

theorem drive_unbroken : ∀ char ∈ [letter, ':'], isBreak char = false := by
  intro char written
  simp only [List.mem_cons, List.not_mem_nil, or_false] at written
  rcases written with rfl | rfl
  · simp [isBreak, letter_differs alpha]
  · decide

end Drive

theorem below_of_addressable (addressable : Addressable scheme names id) :
    ∃ segment : String, extended scheme (withoutEmptyEnd names) id = folder names ++ [segment] ∧
      Percent.decode segment.toList = Text.octets id ∧
      ∀ char ∈ segment.toList, endsSegment scheme char = false := by
  have counted := Path.counted_whole addressable.unbroken
  have landed := extended_lands scheme names addressable.undotted
  rw [segments_before addressable.rooted] at landed
  generalize extended scheme (withoutEmptyEnd names) id = path at landed ⊢
  -- Of all places a walk can land at, a name and a drive with a colon are left.
  cases landed with
  | named _ =>
      refine ⟨_, rfl, ?_, ?_⟩
      · rw [String.toList_ofList, Percent.decode_encode (set_marks scheme), counted,
          String.ofList_toList]
      · intro char written
        rw [String.toList_ofList] at written
        exact encoded_unparted scheme written
  | dotted front _ dots =>
      rw [counted] at dots
      rcases dots with dot | double
      · exact absurd (String.toList_inj.mp dot) addressable.undotted.1
      · exact absurd (String.toList_inj.mp double) addressable.undotted.2
  | drive letter mark head inFile shown alpha which =>
      rw [counted] at shown
      rcases which with rfl | rfl
      · refine ⟨id, ?_, ?_, ?_⟩
        · rw [head, ← shown, String.ofList_toList]
          rfl
        · rw [← String.ofList_toList (s := id), shown, String.toList_ofList]
          exact drive_decodes alpha
        · rw [shown]
          exact drive_unparted alpha
      · exact absurd shown (addressable.noDrive (by simpa using inFile) head letter alpha)
  | cut _ _ _ _ broken => exact absurd counted broken

theorem empty_decodes (decoded : Percent.decode "".toList = Text.octets id) : id = "" := by
  refine Text.octets_inj (decoded.symm.trans ?_)
  simp [Percent.decode]

section Below

variable {segment : String}
variable (below : extended scheme (withoutEmptyEnd names) id = folder names ++ [segment])
variable (decoded : Percent.decode segment.toList = Text.octets id)
include below decoded

theorem undotted_of_below : id ≠ "." ∧ id ≠ ".." := by
  constructor
  · rintro rfl
    rw [last_below below] at decoded
    exact absurd (empty_decodes decoded) (by decide)
  · rintro rfl
    rw [last_below below] at decoded
    exact absurd (empty_decodes decoded) (by decide)

theorem unbroken_of_below : ∀ char ∈ id.toList, isBreak char = false := by
  have landed := extended_lands scheme names (undotted_of_below below decoded)
  rw [below] at landed
  generalize path : folder names ++ [segment] = lands at landed
  have last (name : String) (front : List String) (same : lands = front ++ [name]) :
      segment = name := by
    rw [same] at path
    exact List.singleton_inj.mp (List.append_inj_right' path rfl)
  cases landed with
  | named _ =>
      obtain rfl := last _ _ rfl
      rw [String.toList_ofList, Percent.decode_encode (set_marks scheme)] at decoded
      have whole := congrArg String.toList (Text.octets_inj decoded)
      rw [String.toList_ofList] at whole
      exact Path.unbroken_of_whole whole
  | dotted front _ _ =>
      -- Dots leave an empty segment, which decodes to no identifier but the empty one.
      obtain rfl := last _ _ rfl
      rw [empty_decodes decoded]
      simp
  | drive letter mark head _ _ alpha _ =>
      obtain rfl := last _ [] rfl
      rw [String.toList_ofList, drive_decodes alpha] at decoded
      rw [← Text.octets_inj decoded, String.toList_ofList]
      exact drive_unbroken alpha
  | cut name rest head named _ =>
      rcases folder_of_head head with nothing | slash
      · simp [nothing] at path
      · simp only [slash, List.cons_append, List.cons.injEq] at path
        exact absurd path.1.symm named

/-- Below two empty segments the new one would have to be the third, but the path gets shorter. -/
theorem rooted_of_below : names ≠ ["", ""] := by
  rintro rfl
  have landed := extended_lands scheme ["", ""] (undotted_of_below below decoded)
  rw [below] at landed
  generalize path : folder ["", ""] ++ [segment] = lands at landed
  replace path : ["", segment] = lands := path
  have lengths := congrArg List.length path
  cases landed with
  | named _ => exact absurd lengths (by simp [segmentsBefore, withoutEmptyEnd])
  | dotted front back _ =>
      have short : front.length ≤ 0 := back
      simp at lengths
      omega
  | drive => exact absurd lengths (by simp)
  | cut _ _ _ named _ =>
      cases path
      exact named rfl

theorem no_drive_of_below (inFile : scheme = "file") (top : folder names = []) (letter : Char)
    (alpha : letter.isAlpha = true) : id.toList ≠ [letter, '|'] := by
  intro same
  have counted := Path.counted_whole (unbroken_of_below below decoded)
  have head : segmentsBefore names = [] :=
    (segments_before (rooted_of_below below decoded)).trans top
  have landed := extended_lands scheme names (undotted_of_below below decoded)
  rw [below, top] at landed
  generalize path : [] ++ [segment] = lands at landed
  cases landed with
  | named noDrive =>
      have plain := noDrive (by simpa using inFile) head
      rw [counted, same] at plain
      simp [isDriveLetter, alpha] at plain
  | dotted front _ dots =>
      rw [counted, same] at dots
      simp at dots
  | drive other mark _ _ _ otherAlpha _ =>
      -- The segment has a colon where the identifier has a bar.
      cases path
      rw [String.toList_ofList, drive_decodes otherAlpha] at decoded
      rw [← Text.octets_inj decoded, String.toList_ofList] at same
      simp at same
  | cut _ _ _ _ broken => exact broken counted

theorem addressable_of_below : Addressable scheme names id := by
  constructor
  · exact undotted_of_below below decoded
  · exact unbroken_of_below below decoded
  · exact rooted_of_below below decoded
  · exact no_drive_of_below below decoded

end Below

end Item

section Text

theorem same_text_iff {url : Url} {path other : Path} :
    { url with path }.text = { url with path := other }.text ↔ path.text = other.text := by
  simp [text]

variable {names : List String} {name other : String}

theorem path_text_concat :
    (Path.segments (names ++ [name])).text = (Path.segments names).text ++ ("/" ++ name) := by
  simp [Path.text]

theorem same_path_text_iff :
    (Path.segments (names ++ [name])).text = (Path.segments (names ++ [other])).text ↔
      name = other := by
  simp [path_text_concat]

theorem path_text_longer :
    (Path.segments (names ++ [name])).text ≠ (Path.segments names).text := by
  intro same
  rw [path_text_concat] at same
  have lengths := congrArg String.length same
  simp only [String.length_append] at lengths
  have slash : "/".length = 1 := rfl
  omega

theorem path_text_below_iff :
    (Path.segments (folder names ++ [name])).text = (Path.segments names).text ↔
      name = "" ∧ names.getLast? = some "" := by
  cases how_ends names with
  | nowhere => exact ⟨fun same => absurd same path_text_longer, fun ends => nomatch ends.2⟩
  | root =>
      show (Path.segments ([] ++ [name])).text = (Path.segments ([] ++ [""])).text ↔ _
      rw [same_path_text_iff]
      simp
  | slash front _ =>
      rw [folder_slashed, same_path_text_iff]
      simp
  | name front last named =>
      rw [folder_named named]
      constructor
      · intro same
        exact absurd same path_text_longer
      · rintro ⟨_, ends⟩
        rw [List.getLast?_concat] at ends
        exact absurd (Option.some.inj ends) named

end Text

section Item

variable {url : Url} {names : List String}

def itemOf (url : Url) (names : List String) (id : String) : Url :=
  { url with path := .segments (extended url.scheme (withoutEmptyEnd names) id) }

theorem item_of_segments (path : url.path = .segments names) (id : String) :
    url.item? id = some (itemOf url names id) := by
  rw [item?, path]
  rfl

theorem one_below_iff (id : String) :
    IsOneBelow url names id (itemOf url names id) ↔ Addressable url.scheme names id := by
  constructor
  · rintro ⟨segment, same, decoded, _⟩
    have below : extended url.scheme (withoutEmptyEnd names) id = folder names ++ [segment] := by
      simpa [itemOf] using congrArg Url.path same
    exact addressable_of_below below decoded
  · intro addressable
    obtain ⟨segment, below, decoded, whole⟩ := below_of_addressable addressable
    exact ⟨segment, by rw [itemOf, below], decoded, whole⟩

theorem IsOneBelow.id_inj {id other : String} {item otherItem : Url}
    (below : IsOneBelow url names id item) (otherBelow : IsOneBelow url names other otherItem)
    (same : item.text = otherItem.text) : id = other := by
  obtain ⟨segment, rfl, decoded, _⟩ := below
  obtain ⟨otherSegment, rfl, otherDecoded, _⟩ := otherBelow
  obtain rfl := same_path_text_iff.mp (same_text_iff.mp same)
  exact Text.octets_inj (decoded.symm.trans otherDecoded)

theorem IsOneBelow.itself_iff (path : url.path = .segments names) {id : String} {item : Url}
    (below : IsOneBelow url names id item) :
    item.text = url.text ↔ id = "" ∧ names.getLast? = some "" := by
  obtain ⟨segment, rfl, decoded, _⟩ := below
  have empty : segment = "" ↔ id = "" := by
    constructor
    · rintro rfl
      exact empty_decodes decoded
    · rintro rfl
      rw [Text.octets_empty] at decoded
      exact String.toList_inj.mp (Percent.nothing_decoded decoded)
  have texts : { url with path := .segments (folder names ++ [segment]) }.text = url.text ↔
      (Path.segments (folder names ++ [segment])).text = url.path.text := same_text_iff
  rw [texts, path, path_text_below_iff, empty]

end Item

end ResourceWatch.Url
