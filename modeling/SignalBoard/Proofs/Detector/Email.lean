/-
# Which texts are addresses

The check of an address divides the text at its first at sign, and the rest at its dots. The rule
that it stands for is a regular expression, whose two sides allow some of the same characters and
whose domain repeats a group. Both accept the texts of one grammar: since neither a local part nor a
domain can hold an at sign, and no part of a domain a dot, a text can be read by the grammar in at
most one way.
-/

import Mathlib.Computability.RegularExpressions
import SignalBoard.Detector.Notification
import SignalBoard.Proofs.Store.Path
import SignalBoard.Text.Blank

namespace SignalBoard

namespace Text

/-- Joined parts, the separators counted to the later ones. -/
theorem intercalate_cons_eq_flatten (separator : Char) (first : List Char)
    (rest : List (List Char)) :
    [separator].intercalate (first :: rest) = first ++ (rest.map (separator :: ·)).flatten := by
  induction rest generalizing first with
  | nil => simp
  | cons second others ih =>
      rw [List.intercalate_cons_cons, ih, List.map_cons, List.flatten_cons]
      simp

/-- What stands in joined parts is a separator, or stands in a part. -/
theorem eq_or_mem_of_mem_intercalate {separator c : Char} {parts : List (List Char)}
    (member : c ∈ [separator].intercalate parts) : c = separator ∨ ∃ part ∈ parts, c ∈ part := by
  cases parts with
  | nil => simp at member
  | cons first rest =>
      rw [intercalate_cons_eq_flatten, List.mem_append, List.mem_flatten] at member
      rcases member with inFirst | ⟨text, among, inText⟩
      · exact .inr ⟨first, List.mem_cons_self, inFirst⟩
      · obtain ⟨part, later, rfl⟩ := List.mem_map.mp among
        exact (List.mem_cons.mp inText).imp_right fun inPart => ⟨part, .tail _ later, inPart⟩

end Text

namespace Email

/-! ## The grammar -/

/-- A letter or a digit of ASCII. -/
def Alphanumeric (c : Char) : Prop :=
  ('A' ≤ c ∧ c ≤ 'Z') ∨ ('a' ≤ c ∧ c ≤ 'z') ∨ ('0' ≤ c ∧ c ≤ '9')

/-- One or more characters of a class. -/
def Word (ofClass : Char → Prop) (cs : List Char) : Prop := cs ≠ [] ∧ ∀ c ∈ cs, ofClass c

/-- A local part: letters, digits and marks. -/
def LocalPart : List Char → Prop := Word fun c => Alphanumeric c ∨ c ∈ marks

/-- A part of a domain: letters, digits and dashes. -/
def DomainPart : List Char → Prop := Word fun c => Alphanumeric c ∨ c = '-'

/-- A domain: two or more parts with single dots between them. -/
def Domain (cs : List Char) : Prop :=
  ∃ parts, cs = ['.'].intercalate parts ∧ 2 ≤ parts.length ∧ ∀ part ∈ parts, DomainPart part

/-- An address: a local part, an at sign and a domain. -/
def Address (cs : List Char) : Prop :=
  ∃ name domain, cs = name ++ '@' :: domain ∧ LocalPart name ∧ Domain domain

/-- A letter or digit is one of the library's. -/
theorem alphanumeric_iff (c : Char) : Alphanumeric c ↔ c.isAlphanum = true := by
  delta Alphanumeric Char.isAlphanum Char.isAlpha Char.isUpper Char.isLower Char.isDigit
  simp only [Bool.or_eq_true, Bool.and_eq_true, decide_eq_true_eq, or_assoc]
  rfl

/-! ## What the check accepts -/

theorem isRun_iff {check : Char → Bool} {ofClass : Char → Prop}
    (same : ∀ c, check c = true ↔ ofClass c) (cs : List Char) :
    isRun check cs = true ↔ Word ofClass cs := by
  simp [isRun, Word, same]

theorem isRun_isLocalChar_iff (cs : List Char) : isRun isLocalChar cs = true ↔ LocalPart cs :=
  isRun_iff (fun c => by simp [isLocalChar, alphanumeric_iff]) cs

theorem isRun_isDomainChar_iff (cs : List Char) : isRun isDomainChar cs = true ↔ DomainPart cs :=
  isRun_iff (fun c => by simp [isDomainChar, alphanumeric_iff]) cs

/-- A character that belongs to no class of the grammar is in no word of it. -/
theorem Word.not_mem {ofClass : Char → Prop} {cs : List Char} (word : Word ofClass cs) {c : Char}
    (foreign : ¬ ofClass c) : c ∉ cs := fun member => foreign (word.2 c member)

theorem LocalPart.at_not_mem {cs : List Char} (isName : LocalPart cs) : '@' ∉ cs :=
  Word.not_mem isName (by rw [alphanumeric_iff]; decide)

theorem DomainPart.dot_not_mem {cs : List Char} (isPart : DomainPart cs) : '.' ∉ cs :=
  Word.not_mem isPart (by rw [alphanumeric_iff]; decide)

/-- The parts of a domain are its fields. -/
theorem fields_of_parts {parts : List (List Char)} (several : 2 ≤ parts.length)
    (each : ∀ part ∈ parts, DomainPart part) :
    Text.fields '.' (['.'].intercalate parts) = parts := by
  apply Text.fields_intercalate
  · rintro rfl
    simp at several
  · exact fun part member => (each part member).dot_not_mem

theorem isDomain_iff (cs : List Char) : isDomain cs = true ↔ Domain cs := by
  simp only [isDomain, Bool.and_eq_true, decide_eq_true_eq, List.all_eq_true,
    isRun_isDomainChar_iff]
  constructor
  · rintro ⟨several, each⟩
    exact ⟨_, (Text.intercalate_fields '.' cs).symm, several, each⟩
  · rintro ⟨parts, rfl, several, each⟩
    rw [fields_of_parts several each]
    exact ⟨several, each⟩

/-- The check accepts the texts of the grammar. -/
theorem isAddress_iff (cs : List Char) : isAddress cs = true ↔ Address cs := by
  constructor
  · intro accepted
    have whole := List.takeWhile_append_dropWhile (p := (· != '@')) (l := cs)
    unfold isAddress at accepted
    split at accepted
    case h_1 found domain dropped =>
      -- What is left begins with the at sign that stopped the search.
      have isAt : found = '@' := by
        have stopped := List.head_dropWhile_not (· != '@') (l := cs) (by simp [dropped])
        simpa [dropped] using stopped
      rw [Bool.and_eq_true, isRun_isLocalChar_iff, isDomain_iff] at accepted
      rw [dropped, isAt] at whole
      exact ⟨_, domain, whole.symm, accepted⟩
    case h_2 => cases accepted
  · rintro ⟨name, domain, rfl, isName, isDomain⟩
    have before : ∀ c ∈ name, (c != '@') = true := by
      intro c member
      rw [bne_iff_ne]
      rintro rfl
      exact isName.at_not_mem member
    have taken : (name ++ '@' :: domain).takeWhile (· != '@') = name := by
      rw [List.takeWhile_append_of_pos before]
      simp
    have dropped : (name ++ '@' :: domain).dropWhile (· != '@') = '@' :: domain := by
      rw [List.dropWhile_append_of_pos before]
      simp
    rw [isAddress, dropped, taken]
    exact Bool.and_eq_true_iff.mpr ⟨(isRun_isLocalChar_iff name).mpr isName,
      (isDomain_iff domain).mpr isDomain⟩

/-! ## The regular expression -/

/-- The characters from one to another. -/
def range (first last : Char) : List Char :=
  (List.range' first.toNat (last.toNat + 1 - first.toNat)).map Char.ofNat

/-- The letters and digits, as the classes of the expression give them. -/
def alphanumerics : List Char := range 'A' 'Z' ++ range 'a' 'z' ++ range '0' '9'

/-- One character of a class. -/
def anyOf : List Char → RegularExpression Char
  | [] => 0
  | c :: rest => .char c + anyOf rest

/-- One or more times what an expression matches. -/
def oneOrMore (expression : RegularExpression Char) : RegularExpression Char :=
  expression * expression.star

/-- A part of a domain. -/
def domainPattern : RegularExpression Char := oneOrMore (anyOf (alphanumerics ++ ['-']))

/-- The expression that addresses match from their first character to their last. -/
def pattern : RegularExpression Char :=
  oneOrMore (anyOf (alphanumerics ++ marks)) * .char '@' * domainPattern *
    oneOrMore (.char '.' * domainPattern)

theorem mem_range_iff {first last : Char} (low : last.toNat < 0xD800) (c : Char) :
    c ∈ range first last ↔ first ≤ c ∧ c ≤ last := by
  have numbers : first ≤ c ∧ c ≤ last ↔ first.toNat ≤ c.toNat ∧ c.toNat ≤ last.toNat := Iff.rfl
  rw [numbers, range, List.mem_map]
  simp only [List.mem_range'_1]
  constructor
  · rintro ⟨n, ⟨least, most⟩, rfl⟩
    have number : (Char.ofNat n).toNat = n := by
      rw [Char.ofNat, dif_pos (.inl (by omega))]
      rfl
    omega
  · rintro ⟨least, most⟩
    exact ⟨c.toNat, by omega, Char.ofNat_toNat c⟩

theorem mem_alphanumerics_iff (c : Char) : c ∈ alphanumerics ↔ Alphanumeric c := by
  simp only [alphanumerics, List.mem_append, Alphanumeric, or_assoc]
  rw [mem_range_iff (by decide), mem_range_iff (by decide), mem_range_iff (by decide)]

theorem mem_char_iff (c : Char) (cs : List Char) :
    cs ∈ (RegularExpression.char c).matches' ↔ cs = [c] := Iff.rfl

theorem mem_anyOf_iff (ofClass cs : List Char) :
    cs ∈ (anyOf ofClass).matches' ↔ ∃ c ∈ ofClass, cs = [c] := by
  induction ofClass with
  | nil => simp [anyOf, Language.notMem_zero]
  | cons first rest ih =>
      rw [anyOf, RegularExpression.matches'_add, Language.mem_add, ih, mem_char_iff]
      simp

/-- What is matched one or more times is one or more texts, one after the other. -/
theorem mem_oneOrMore_iff (expression : RegularExpression Char) (cs : List Char) :
    cs ∈ (oneOrMore expression).matches' ↔
      ∃ texts ≠ [], cs = texts.flatten ∧ ∀ text ∈ texts, text ∈ expression.matches' := by
  rw [oneOrMore, RegularExpression.matches'_mul, RegularExpression.matches'_star, Language.mem_mul]
  simp only [Language.mem_kstar]
  constructor
  · rintro ⟨first, matched, _, ⟨rest, rfl, each⟩, rfl⟩
    exact ⟨first :: rest, by simp, rfl, List.forall_mem_cons.mpr ⟨matched, each⟩⟩
  · rintro ⟨texts, some, rfl, each⟩
    obtain ⟨first, rest, rfl⟩ := List.exists_cons_of_ne_nil some
    obtain ⟨matched, each⟩ := List.forall_mem_cons.mp each
    exact ⟨first, matched, _, ⟨rest, rfl, each⟩, rfl⟩

/-- One or more characters of a class are a word. -/
theorem mem_oneOrMore_anyOf_iff (ofClass cs : List Char) :
    cs ∈ (oneOrMore (anyOf ofClass)).matches' ↔ Word (· ∈ ofClass) cs := by
  simp only [mem_oneOrMore_iff, mem_anyOf_iff]
  constructor
  · rintro ⟨texts, some, rfl, each⟩
    refine ⟨?_, fun c member => ?_⟩
    · obtain ⟨first, rest, rfl⟩ := List.exists_cons_of_ne_nil some
      obtain ⟨c, -, rfl⟩ := each first List.mem_cons_self
      simp
    · obtain ⟨text, among, inText⟩ := List.mem_flatten.mp member
      obtain ⟨c', isClass, rfl⟩ := each text among
      rwa [List.mem_singleton.mp inText]
  · rintro ⟨some, each⟩
    refine ⟨cs.map fun c => [c], by simpa, (List.flatMap_singleton' cs).symm, ?_⟩
    intro text member
    obtain ⟨c, among, rfl⟩ := List.mem_map.mp member
    exact ⟨c, each c among, rfl⟩

theorem mem_domainPattern_iff (cs : List Char) :
    cs ∈ domainPattern.matches' ↔ DomainPart cs := by
  rw [domainPattern, mem_oneOrMore_anyOf_iff]
  simp [DomainPart, Word, mem_alphanumerics_iff]

/-- A part of a domain after a dot. -/
theorem mem_dotted_iff (cs : List Char) :
    cs ∈ (.char '.' * domainPattern : RegularExpression Char).matches' ↔
      ∃ part, DomainPart part ∧ cs = '.' :: part := by
  rw [RegularExpression.matches'_mul, Language.mem_mul]
  simp only [mem_char_iff, mem_domainPattern_iff]
  constructor
  · rintro ⟨_, rfl, part, isPart, rfl⟩
    exact ⟨part, isPart, rfl⟩
  · rintro ⟨part, isPart, rfl⟩
    exact ⟨_, rfl, part, isPart, rfl⟩

/-- What the expression has after the at sign is a domain: a part, and one or more parts after
dots. -/
theorem mem_domain_iff (cs : List Char) :
    cs ∈ (domainPattern * oneOrMore (.char '.' * domainPattern)).matches' ↔ Domain cs := by
  rw [RegularExpression.matches'_mul, Language.mem_mul]
  simp only [mem_domainPattern_iff, mem_oneOrMore_iff, mem_dotted_iff]
  constructor
  · rintro ⟨first, isFirst, _, ⟨texts, some, rfl, each⟩, rfl⟩
    obtain ⟨rest, dotted⟩ : ∃ rest : List (List Char),
        texts = rest.map ('.' :: ·) ∧ ∀ part ∈ rest, DomainPart part := by
      clear some
      induction texts with
      | nil => exact ⟨[], rfl, by simp⟩
      | cons text others ih =>
          obtain ⟨⟨part, isPart, rfl⟩, later⟩ := List.forall_mem_cons.mp each
          obtain ⟨rest, rfl, parts⟩ := ih later
          exact ⟨part :: rest, rfl, List.forall_mem_cons.mpr ⟨isPart, parts⟩⟩
    obtain ⟨rfl, parts⟩ := dotted
    refine ⟨first :: rest, (Text.intercalate_cons_eq_flatten '.' first rest).symm, ?_,
      List.forall_mem_cons.mpr ⟨isFirst, parts⟩⟩
    have : rest ≠ [] := by simpa using some
    have := List.length_pos_iff.mpr this
    simp only [List.length_cons]
    omega
  · rintro ⟨parts, rfl, several, each⟩
    obtain ⟨first, rest, rfl⟩ := List.exists_cons_of_length_pos (by omega : 0 < parts.length)
    obtain ⟨isFirst, each⟩ := List.forall_mem_cons.mp each
    have some : rest ≠ [] := by
      rintro rfl
      simp at several
    refine ⟨first, isFirst, _, ⟨rest.map ('.' :: ·), by simpa, rfl, ?_⟩,
      (Text.intercalate_cons_eq_flatten '.' first rest).symm⟩
    intro text member
    obtain ⟨part, among, rfl⟩ := List.mem_map.mp member
    exact ⟨part, each part among, rfl⟩

/-- The expression matches the texts of the grammar. -/
theorem mem_pattern_iff (cs : List Char) : cs ∈ pattern.matches' ↔ Address cs := by
  have isName : ∀ name, name ∈ (oneOrMore (anyOf (alphanumerics ++ marks))).matches' ↔
      LocalPart name := by
    intro name
    rw [mem_oneOrMore_anyOf_iff]
    simp [LocalPart, Word, mem_alphanumerics_iff]
  have grouped : pattern.matches' = (oneOrMore (anyOf (alphanumerics ++ marks))).matches' *
      ((RegularExpression.char '@').matches' *
        (domainPattern * oneOrMore (.char '.' * domainPattern)).matches') := by
    simp only [pattern, RegularExpression.matches'_mul, mul_assoc]
  rw [grouped, Language.mem_mul]
  simp only [Language.mem_mul, isName, mem_char_iff, mem_domain_iff]
  constructor
  · rintro ⟨name, isName, _, ⟨_, rfl, domain, isDomain, rfl⟩, rfl⟩
    exact ⟨name, domain, rfl, isName, isDomain⟩
  · rintro ⟨name, domain, rfl, isName, isDomain⟩
    exact ⟨name, isName, _, ⟨_, rfl, domain, isDomain, rfl⟩, rfl⟩

/-! ## What an address holds -/

theorem Domain.mem {cs : List Char} (isDomain : Domain cs) {c : Char} (member : c ∈ cs) :
    c = '.' ∨ c = '-' ∨ Alphanumeric c := by
  obtain ⟨parts, rfl, -, each⟩ := isDomain
  refine (Text.eq_or_mem_of_mem_intercalate member).imp_right ?_
  rintro ⟨part, among, inPart⟩
  exact ((each part among).2 c inPart).symm

theorem Domain.at_not_mem {cs : List Char} (isDomain : Domain cs) : '@' ∉ cs := by
  intro member
  have foreign := isDomain.mem member
  rw [alphanumeric_iff] at foreign
  exact absurd foreign (by decide)

/-- The marks that an address holds besides letters and digits are in ASCII, and none is white
space. -/
theorem Address.mem {cs : List Char} (isAddress : Address cs) {c : Char} (member : c ∈ cs) :
    Alphanumeric c ∨ c ∈ '@' :: marks := by
  obtain ⟨name, domain, rfl, isName, isDomain⟩ := isAddress
  rcases List.mem_append.mp member with inName | rest
  · exact (isName.2 c inName).imp_right (.tail _)
  rcases List.mem_cons.mp rest with rfl | inDomain
  · exact .inr List.mem_cons_self
  rcases isDomain.mem inDomain with rfl | rfl | isAlphanumeric
  · exact .inr (by decide)
  · exact .inr (by decide)
  · exact .inl isAlphanumeric

/-- A character of an address is one of ASCII and no white space. -/
theorem Address.plain {cs : List Char} (isAddress : Address cs) {c : Char} (member : c ∈ cs) :
    c.toNat < 128 ∧ Text.blankChar c = false := by
  rcases isAddress.mem member with isAlphanumeric | isMark
  · have numbers : ('A'.toNat ≤ c.toNat ∧ c.toNat ≤ 'Z'.toNat) ∨
        ('a'.toNat ≤ c.toNat ∧ c.toNat ≤ 'z'.toNat) ∨
          ('0'.toNat ≤ c.toNat ∧ c.toNat ≤ '9'.toNat) := isAlphanumeric
    simp only [Char.reduceToNat] at numbers
    refine ⟨by omega, ?_⟩
    -- Between the blank and the next white space there are all of ASCII's printed characters.
    simp only [Text.blankChar, Text.blankRanges, List.any_cons, List.any_nil, Bool.or_false,
      Bool.or_eq_false_iff, Bool.and_eq_false_iff, decide_eq_false_iff_not]
    omega
  · have each : ('@' :: marks).all fun c => c.toNat < 128 && !Text.blankChar c := by decide
    simpa using List.all_eq_true.mp each c isMark

theorem Address.count_at {cs : List Char} (isAddress : Address cs) : cs.count '@' = 1 := by
  obtain ⟨name, domain, rfl, isName, isDomain⟩ := isAddress
  rw [List.count_append, List.count_cons_self, List.count_eq_zero.mpr isName.at_not_mem,
    List.count_eq_zero.mpr isDomain.at_not_mem]

/-- However an address is divided at an at sign, the fields of what follows are the parts of its
domain. -/
theorem Address.fields {name domain : List Char} (isAddress : Address (name ++ '@' :: domain)) :
    ∀ part ∈ Text.fields '.' domain, DomainPart part := by
  obtain ⟨name', _, same, isName, ⟨parts, rfl, several, each⟩⟩ := isAddress
  have once := Address.count_at ⟨_, _, same, isName, parts, rfl, several, each⟩
  have clean : '@' ∉ name := by
    rw [List.count_append, List.count_cons_self] at once
    exact List.count_eq_zero.mp (by omega)
  have divided := congrArg (Text.fields '@') same
  rw [Text.fields_append_cons clean, Text.fields_append_cons isName.at_not_mem] at divided
  obtain rfl : name = name' := (List.cons.inj divided).1
  obtain rfl : domain = ['.'].intercalate parts := (List.cons.inj (List.append_cancel_left same)).2
  rwa [fields_of_parts several each]

end Email

namespace Notification

open Email (Address)

/-- What becomes of a text that is to be an address is decided by the check. -/
theorem toEmail_eq (address : String) :
    toEmail address =
      if Email.isAddress address.toList then .ok (.email address) else .error (.email address) := by
  rw [toEmail, require]
  split <;> rfl

/-- A text is accepted as an address, and kept as it is, exactly if it has the form of one; any
other text is refused. The texts of that form are those that the expression matches, and none of
them has a second at sign, a character beyond ASCII, white space, or a domain with an empty part. -/
theorem toEmail_iff_address (address : String) :
    (toEmail address = .ok (.email address) ↔ Address address.toList) ∧
      (toEmail address = .error (.email address) ↔ ¬ Address address.toList) ∧
      (address.toList ∈ Email.pattern.matches' ↔ Address address.toList) ∧
      (Address address.toList → address.toList.count '@' = 1 ∧
        (∀ c ∈ address.toList, c.toNat < 128 ∧ Text.blankChar c = false) ∧
        ∀ name domain, address.toList = name ++ '@' :: domain →
          ∀ part ∈ Text.fields '.' domain, part ≠ []) := by
  rw [toEmail_eq, ← Email.isAddress_iff]
  refine ⟨?_, ?_, ?_, ?_⟩
  · split <;> simp_all
  · split <;> simp_all
  · rw [Email.mem_pattern_iff, Email.isAddress_iff]
  · rw [Email.isAddress_iff]
    intro isAddress
    refine ⟨isAddress.count_at, fun c member => isAddress.plain member, ?_⟩
    intro name domain divided part member
    rw [divided] at isAddress
    exact (isAddress.fields part member).1

theorem toEmail_iff_address_team :
    let address := "ops.team+on-call@mail.example-1.com"
    toEmail address = .ok (.email address) ∧ Address address.toList ∧
      address.toList ∈ Email.pattern.matches' ∧ address.toList.count '@' = 1 := by
  intro address
  have accepted : toEmail address = .ok (.email address) := by decide
  obtain ⟨passes, -, matched, holds⟩ := toEmail_iff_address address
  have isAddress := passes.mp accepted
  exact ⟨accepted, isAddress, matched.mpr isAddress, (holds isAddress).1⟩

example : toEmail "ops@example.com\n" = .error (.email "ops@example.com\n") := by decide

end Notification

end SignalBoard
