/-
Which texts are lists of endpoints. Between its commas, and without the blanks around it, an
endpoint is spelled as a host, a colon and a port, and the last colon is the one that counts. What
is written is such a text, so every list that can be read comes back from its written form.

* `Endpoint.splitLastColon_eq_some_iff`: what stands around the last colon.
* `Endpoint.IsSpelled`, `Endpoint.Malforms`: the spelling of an endpoint, and what is wrong with any
  other text.
* `Endpoint.parseList_spells`: the lists of endpoints, and the errors of all other texts.
* `Endpoint.parse_text`: an endpoint is read back when no blank of it gets lost.
* `Endpoint.parseList_join_iff_listable`: the lists that are read back, which are those that can be
  read at all.
-/

import Mathlib.Data.List.Forall2
import TrainingLauncher.Proofs.Decimal
import TrainingLauncher.Proofs.Fields

namespace TrainingLauncher

namespace Text

/-- A text that ends with a visible character ends there when it is trimmed. -/
theorem trimEnd_concat_of_visible (chars : List Char) {last : Char}
    (visible : isBlank last = false) : trimEnd (chars ++ [last]) = chars ++ [last] := by
  induction chars with
  | nil => simp [trimEnd, visible]
  | cons char rest ih =>
    cases kept : rest ++ [last] with
    | nil => simp at kept
    | cons first others =>
      rw [kept] at ih
      rw [List.cons_append, kept, trimEnd_cons_of_kept ih]

/-- What is left of a text at its end starts as the text does. -/
theorem head?_of_head?_trimEnd {chars : List Char} {first : Char}
    (starts : (trimEnd chars).head? = some first) : chars.head? = some first := by
  cases chars with
  | nil => exact starts
  | cons char rest =>
    rw [trimEnd] at starts
    split at starts
    · split at starts
      · cases starts
      · exact starts
    · exact starts

/-- A trimmed text starts with a visible character, if with any. -/
theorem visible_of_head?_trimChars {chars : List Char} {first : Char}
    (starts : (trimChars chars).head? = some first) : isBlank first = false := by
  have visible := List.head?_dropWhile_not isBlank chars
  rwa [head?_of_head?_trimEnd starts] at visible

/-- Nothing is trimmed off a text that starts and ends with a visible character. -/
theorem trimChars_eq_self {first last : Char} {inner : List Char} (starts : isBlank first = false)
    (ends : isBlank last = false) :
    trimChars (first :: inner ++ [last]) = first :: inner ++ [last] := by
  rw [List.cons_append, trimChars_cons_of_visible _ starts, ← List.cons_append,
    trimEnd_concat_of_visible _ ends]

/-- A digit is no blank. -/
theorem visible_of_isDigit {char : Char} (digit : char.isDigit = true) : isBlank char = false := by
  have apart : ∀ range ∈ blankRanges, range.2 < 48 ∨ 57 < range.1 := by decide
  have figure : 48 ≤ char.toNat ∧ char.toNat ≤ 57 := by
    simpa [Char.isDigit, UInt32.le_iff_toNat_le] using digit
  rw [← Bool.not_eq_true, isBlank, inRanges_iff]
  rintro ⟨range, listed, least, most⟩
  have outside := apart range listed
  omega

/-- The pieces of a text, with commas between them, are the text. -/
theorem joined_fields (text : String) : joined "," (fields text) = text := by
  have whole : [','].intercalate (text.toList.splitOn ',') = text.toList :=
    List.intercalate_splitOn ','
  rw [← String.toList_inj, toList_joined, fields, pieces_eq_splitOnP, List.map_map]
  rw [List.splitOn_eq_splitOnP] at whole
  have same : String.toList ∘ String.ofList = id := funext fun _ => String.toList_ofList
  rw [same, List.map_id]
  exact whole

end Text

namespace Endpoint

open Text

section Colons

variable {chars before after : List Char}

theorem splitLastColon_eq_none_iff : splitLastColon chars = none ↔ ':' ∉ chars := by
  induction chars with
  | nil => simp [splitLastColon]
  | cons char rest ih =>
    rw [splitLastColon]
    split
    · rename_i front back later
      have present : ':' ∈ rest := by
        by_contra absent
        rw [ih.mpr absent] at later
        cases later
      simp [present]
    · rename_i absent
      have absent := ih.mp absent
      by_cases colon : char = ':'
      · simp [colon]
      · simp [colon, absent, Ne.symm colon]

theorem splitLastColon_append (before : List Char) (last : ':' ∉ after) :
    splitLastColon (before ++ ':' :: after) = some (before, after) := by
  induction before with
  | nil => simp [splitLastColon, splitLastColon_eq_none_iff.mpr last]
  | cons char before ih => rw [List.cons_append, splitLastColon, ih]

/-- **What stands before and after the last colon.** -/
theorem splitLastColon_eq_some_iff :
    splitLastColon chars = some (before, after) ↔ chars = before ++ ':' :: after ∧ ':' ∉ after := by
  constructor
  · intro split
    induction chars generalizing before with
    | nil => cases split
    | cons char rest ih =>
      rw [splitLastColon] at split
      split at split
      · rename_i front back later
        cases split
        obtain ⟨rfl, last⟩ := ih later
        exact ⟨rfl, last⟩
      · rename_i absent
        split at split
        · rename_i colon
          cases split
          exact ⟨by rw [colon, List.nil_append], splitLastColon_eq_none_iff.mp absent⟩
        · cases split
  · rintro ⟨rfl, last⟩
    exact splitLastColon_append before last

end Colons

section Spelling

variable {source text : String} {endpoint : Endpoint} {endpoints : List Endpoint}

/-- An endpoint is spelled as its host, which is not empty, a colon and its port. The host may hold
colons, but the port holds none. -/
def IsSpelled (endpoint : Endpoint) (text : String) : Prop :=
  endpoint.host ≠ "" ∧ ∃ port : String, text = endpoint.host ++ ":" ++ port ∧ ':' ∉ port.toList ∧
    Decimal.Spells port.toList endpoint.port.toNat

/-- What is wrong with a text that spells no endpoint. -/
inductive Malforms (text : String) : ConfigFault → Prop
  | withoutPort (absent : ':' ∉ text.toList) : Malforms text (.endpointWithoutPort text)
  | withoutHost {port : String} (split : text = ":" ++ port) (last : ':' ∉ port.toList) :
      Malforms text (.endpointWithoutHost text)
  | port {host port : String} {fault : Decimal.Fault} (split : text = host ++ ":" ++ port)
      (filled : host ≠ "") (last : ':' ∉ port.toList)
      (misspelled : Decimal.Misspells Decimal.limit16 port.toList fault) :
      Malforms text (.endpointPort text fault)

/-- Characters around a colon, as texts. -/
theorem eq_append_colon_iff {before after : List Char} :
    text.toList = before ++ ':' :: after ↔
      text = String.ofList before ++ ":" ++ String.ofList after := by
  rw [← String.toList_inj]
  simp

/-- The last colon of a text, seen in the text without the blanks around it. -/
theorem split_trim_iff {host port : List Char} :
    splitLastColon (trimChars source.toList) = some (host, port) ↔
      trim source = String.ofList host ++ ":" ++ String.ofList port ∧ ':' ∉ port := by
  rw [splitLastColon_eq_some_iff, ← eq_append_colon_iff, trim, String.toList_ofList]

/-- Behind a host, what comes after the last colon is read as a number. -/
theorem parse_of_split {host port : List Char} (filled : host ≠ [])
    (split : splitLastColon (trimChars source.toList) = some (host, port)) :
    parse source = match Decimal.readChars Decimal.limit16 port with
      | .error fault => .error (.config (.endpointPort (trim source) fault))
      | .ok number => .ok ⟨String.ofList host, UInt16.ofNat number⟩ := by
  unfold parse
  cases host with
  | nil => exact (filled rfl).elim
  | cons char rest =>
    simp only [split]
    rfl

/-- **An endpoint is read off its spelling.** -/
theorem parse_eq_ok_iff : parse source = .ok endpoint ↔ endpoint.IsSpelled (trim source) := by
  constructor
  · intro read
    rw [parse] at read
    split at read
    · cases read
    · cases read
    · rename_i host port filled split
      obtain ⟨whole, last⟩ := split_trim_iff.mp split
      split at read
      · cases read
      · rename_i number spelled
        cases read
        obtain ⟨spelled, small⟩ := Decimal.readChars_eq_ok_iff.mp spelled
        refine ⟨?_, String.ofList port, whole, ?_, ?_⟩
        · rwa [ne_eq, String.ofList_eq_empty_iff]
        · rwa [String.toList_ofList]
        · rwa [String.toList_ofList, UInt16.toNat_ofNat_of_lt' (Nat.lt_succ_of_le small)]
  · rintro ⟨filled, port, whole, last, spelled⟩
    have split : splitLastColon (trimChars source.toList) =
        some (endpoint.host.toList, port.toList) := by
      rw [split_trim_iff, String.ofList_toList, String.ofList_toList]
      exact ⟨whole, last⟩
    have small : endpoint.port.toNat ≤ Decimal.limit16 :=
      Nat.le_of_lt_succ endpoint.port.toNat_lt
    have number : Decimal.readChars Decimal.limit16 port.toList = .ok endpoint.port.toNat :=
      Decimal.readChars_eq_ok_iff.mpr ⟨spelled, small⟩
    rw [parse_of_split (by simpa using filled) split, number]
    simp

/-- **The error of any other text** says what is wrong with it. -/
theorem parse_eq_error_iff {error : LaunchError} : parse source = .error error ↔
    ∃ fault, Malforms (trim source) fault ∧ error = .config fault := by
  constructor
  · intro failed
    rw [parse] at failed
    split at failed
    · rename_i absent
      cases failed
      have absent := splitLastColon_eq_none_iff.mp absent
      exact ⟨_, .withoutPort (by rwa [trim, String.toList_ofList]), rfl⟩
    · rename_i port split
      cases failed
      obtain ⟨whole, last⟩ := split_trim_iff.mp split
      have whole : trim source = ":" ++ String.ofList port := by simpa using whole
      exact ⟨_, .withoutHost whole (by rwa [String.toList_ofList]), rfl⟩
    · rename_i host port filled split
      obtain ⟨whole, last⟩ := split_trim_iff.mp split
      split at failed
      · rename_i fault unread
        cases failed
        exact ⟨_, .port whole (by rwa [ne_eq, String.ofList_eq_empty_iff])
          (by rwa [String.toList_ofList])
          (by rwa [String.toList_ofList, ← Decimal.readChars_eq_error_iff]), rfl⟩
      · cases failed
  · rintro ⟨fault, malformed, rfl⟩
    cases malformed with
    | withoutPort absent =>
      rw [trim, String.toList_ofList, ← splitLastColon_eq_none_iff] at absent
      simp only [parse, absent]
      rfl
    | withoutHost whole last =>
      rename_i port
      have split : splitLastColon (trimChars source.toList) = some ([], port.toList) := by
        rw [split_trim_iff, String.ofList_toList]
        exact ⟨by simpa using whole, last⟩
      simp only [parse, split]
      rfl
    | port whole filled last misspelled =>
      rename_i host port fault
      have split : splitLastColon (trimChars source.toList) = some (host.toList, port.toList) := by
        rw [split_trim_iff, String.ofList_toList, String.ofList_toList]
        exact ⟨whole, last⟩
      have unread := Decimal.readChars_eq_error_iff.mpr misspelled
      rw [parse_of_split (by simpa using filled) split, unread]

/-- A list fails at the first text that is no endpoint. -/
theorem parseAll_eq_error_iff {sources : List String} {error : LaunchError} :
    parseAll sources = .error error ↔ ∃ before source after, sources = before ++ source :: after ∧
      (∀ earlier ∈ before, ∃ endpoint, parse earlier = .ok endpoint) ∧
        parse source = .error error := by
  induction sources with
  | nil =>
    refine iff_of_false (fun same => by cases same) ?_
    rintro ⟨before, source, after, split, -⟩
    simp at split
  | cons first rest ih =>
    rw [parseAll, bind_eq_error_iff]
    constructor
    · rintro (failed | ⟨endpoint, read, failed⟩)
      · exact ⟨[], first, rest, rfl, List.forall_mem_nil _, failed⟩
      · obtain failed | ⟨others, -, absurd⟩ := bind_eq_error_iff.mp failed
        · obtain ⟨before, source, after, rfl, fine, failed⟩ := ih.mp failed
          exact ⟨first :: before, source, after, rfl,
            List.forall_mem_cons.mpr ⟨⟨endpoint, read⟩, fine⟩, failed⟩
        · cases absurd
    · rintro ⟨before, source, after, split, fine, failed⟩
      cases before with
      | nil =>
        obtain ⟨rfl, -⟩ := List.cons.inj split
        exact .inl failed
      | cons earlier before =>
        obtain ⟨rfl, rfl⟩ := List.cons.inj split
        obtain ⟨⟨endpoint, read⟩, fine⟩ := List.forall_mem_cons.mp fine
        exact .inr ⟨endpoint, read, bind_eq_error_iff.mpr
          (.inl (ih.mpr ⟨before, source, after, rfl, fine, failed⟩))⟩

/-- A list is read when each of its texts is an endpoint. -/
theorem exists_parseAll_iff {sources : List String} :
    (∃ endpoints, parseAll sources = .ok endpoints) ↔
      ∀ source ∈ sources, ∃ endpoint, parse source = .ok endpoint := by
  induction sources with
  | nil => exact iff_of_true ⟨[], rfl⟩ (List.forall_mem_nil _)
  | cons first rest ih =>
    simp only [parseAll, List.forall_mem_cons, ← ih, bind_eq_ok_iff]
    constructor
    · rintro ⟨_, endpoint, read, others, later, -⟩
      exact ⟨⟨endpoint, read⟩, others, later⟩
    · rintro ⟨⟨endpoint, read⟩, others, later⟩
      exact ⟨_, endpoint, read, others, later, rfl⟩

/-- What is read from a list is spelled between its commas. -/
theorem parseList_eq_ok_iff : parseList source = .ok endpoints ↔
    List.Forall₂ (fun endpoint field => endpoint.IsSpelled (trim field)) endpoints
      (fields source) := by
  have read (endpoint : Endpoint) (field : String) :
      .ok endpoint = parse field ↔ endpoint.IsSpelled (trim field) := by
    rw [eq_comm, parse_eq_ok_iff]
  rw [parseList, parseAll_eq_ok_iff, eq_comm, ← List.forall₂_eq_eq_eq, List.forall₂_map_left_iff,
    List.forall₂_map_right_iff]
  simp only [read]

/-- **Which texts are lists of endpoints.** The fields of a text are what stands between its commas.
A list is read exactly when every field, without the blanks around it, spells an endpoint, and then
it has these endpoints in this order. Otherwise the error says what is wrong with the first field
that spells none. -/
theorem parseList_spells (source : String) :
    (joined "," (fields source) = source ∧ ∀ field ∈ fields source, ',' ∉ field.toList) ∧
    (∀ endpoints, parseList source = .ok endpoints ↔
      List.Forall₂ (fun endpoint field => IsSpelled endpoint (trim field)) endpoints
        (fields source)) ∧
    ((∃ endpoints, parseList source = .ok endpoints) ↔
      ∀ field ∈ fields source, ∃ endpoint, IsSpelled endpoint (trim field)) ∧
    ∀ error, parseList source = .error error ↔
      ∃ before field after fault, fields source = before ++ field :: after ∧
        (∀ earlier ∈ before, ∃ endpoint, IsSpelled endpoint (trim earlier)) ∧
        Malforms (trim field) fault ∧ error = .config fault := by
  refine ⟨⟨joined_fields source, fun field member inside => ?_⟩,
    fun endpoints => parseList_eq_ok_iff, ?_, fun error => ?_⟩
  · exact (mem_of_mem_fields member inside).2 rfl
  · simp only [parseList, exists_parseAll_iff, parse_eq_ok_iff]
  · simp only [parseList, parseAll_eq_error_iff, parse_eq_ok_iff, parse_eq_error_iff,
      exists_and_left]

/-- A list of two endpoints, one with colons and the other with a blank in its host, and a list
whose second endpoint has no port. -/
theorem parseList_spells_signedPort :
    parseList "\t::1:+080 ,b :65535" = .ok [⟨"::1", 80⟩, ⟨"b ", 65535⟩] ∧
      List.Forall₂ (fun endpoint field => IsSpelled endpoint (trim field))
        [⟨"::1", 80⟩, ⟨"b ", 65535⟩] (fields "\t::1:+080 ,b :65535") ∧
      parseList "::1:80, b: ,c" = .error (.config (.endpointPort "b:" .empty)) ∧
      ∃ before field after, fields "::1:80, b: ,c" = before ++ field :: after ∧
        Malforms (trim field) (.endpointPort "b:" .empty) := by
  have read : parseList "\t::1:+080 ,b :65535" = .ok [⟨"::1", 80⟩, ⟨"b ", 65535⟩] := by
    decide +kernel
  have failed : parseList "::1:80, b: ,c" = .error (.config (.endpointPort "b:" .empty)) := by
    decide +kernel
  obtain ⟨-, spelled, -⟩ := parseList_spells "\t::1:+080 ,b :65535"
  obtain ⟨-, -, -, told⟩ := parseList_spells "::1:80, b: ,c"
  obtain ⟨before, field, after, fault, split, -, malformed, same⟩ := (told _).mp failed
  cases same
  exact ⟨read, (spelled _).mp read, failed, before, field, after, split, malformed⟩

end Spelling

section Listing

variable {endpoint : Endpoint} {endpoints : List Endpoint} {source : String}

/-- An endpoint that a list can hold. Its host may end with a blank, which stands before the
colon. -/
structure IsListable (endpoint : Endpoint) : Prop where
  filled : endpoint.host ≠ ""
  commaless : endpoint.Commaless
  starts : ∀ char, endpoint.host.toList.head? = some char → isBlank char = false

/-- Nothing is trimmed off an endpoint whose host starts with a visible character. -/
theorem trim_text (filled : endpoint.host ≠ "")
    (starts : ∀ char, endpoint.host.toList.head? = some char → isBlank char = false) :
    trim endpoint.text = endpoint.text := by
  have figures : Nat.toDigits 10 endpoint.port.toNat ≠ [] := Nat.toDigits_ne_nil
  have ends : isBlank ((Nat.toDigits 10 endpoint.port.toNat).getLast figures) = false :=
    visible_of_isDigit (Decimal.isDigit_of_mem_toDigits (List.getLast_mem figures))
  cases host : endpoint.host.toList with
  | nil => exact (filled (String.toList_eq_nil_iff.mp host)).elim
  | cons first rest =>
    rw [host] at starts
    have whole : endpoint.text.toList =
        first :: (rest ++ ':' :: (Nat.toDigits 10 endpoint.port.toNat).dropLast) ++
          [(Nat.toDigits 10 endpoint.port.toNat).getLast figures] := by
      rw [text, String.toList_append, String.toList_append, Decimal.toList_toString, host]
      simp [List.dropLast_append_getLast figures]
    rw [trim, whole, trimChars_eq_self (starts first rfl) ends, ← whole, String.ofList_toList]

/-- **An endpoint is read back** when its host is not empty and starts with no blank. -/
theorem parse_text (filled : endpoint.host ≠ "")
    (starts : ∀ char, endpoint.host.toList.head? = some char → isBlank char = false) :
    parse endpoint.text = .ok endpoint := by
  have spelled := Decimal.spells_toDigits endpoint.port.toNat
  rw [parse_eq_ok_iff, trim_text filled starts]
  refine ⟨filled, toString endpoint.port.toNat, rfl, ?_, ?_⟩
  · rw [Decimal.toList_toString]
    intro inside
    rcases spelled.mem inside with plus | digit
    · exact absurd plus (by decide)
    · exact absurd digit (by decide)
  · rwa [Decimal.toList_toString]

/-- What is read from a text starts with no blank. -/
theorem starts_of_isSpelled {text : String} (spelled : endpoint.IsSpelled (trim text)) :
    ∀ char, endpoint.host.toList.head? = some char → isBlank char = false := by
  obtain ⟨filled, port, whole, -, -⟩ := spelled
  intro char first
  have whole : trimChars text.toList = endpoint.host.toList ++ (":" ++ port).toList := by
    rw [← String.toList_append, ← String.append_assoc, ← whole, trim, String.toList_ofList]
  have starts : (trimChars text.toList).head? = some char := by
    rw [whole, List.head?_append, first]
    rfl
  exact visible_of_head?_trimChars starts

/-- What a list holds can be written into one. -/
theorem listable_of_parseList (read : parseList source = .ok endpoints) :
    ∀ endpoint ∈ endpoints, endpoint.IsListable := by
  intro endpoint member
  have parsed : .ok endpoint ∈ (fields source).map parse :=
    parseAll_eq_ok_iff.mp read ▸ List.mem_map_of_mem member
  obtain ⟨field, -, one⟩ := List.mem_map.mp parsed
  have spelled := parse_eq_ok_iff.mp one
  exact ⟨spelled.1, parseList_commaless read endpoint member, starts_of_isSpelled spelled⟩

/-- Listable endpoints are read back from a list. -/
theorem parseList_join (filled : endpoints ≠ [])
    (listable : ∀ endpoint ∈ endpoints, endpoint.IsListable) :
    parseList (join endpoints) = .ok endpoints := by
  rw [parseList, fields_join filled fun endpoint member => (listable endpoint member).commaless,
    parseAll_eq_ok_iff, List.map_map]
  exact List.map_congr_left fun endpoint member =>
    parse_text (listable endpoint member).filled (listable endpoint member).starts

/-- **The lists that are read back** are those that can be read at all. The endpoints of a list come
back from its written form exactly when there are any and each of them is listable; and what is read
from any text is so. So the written form of what was read is read as the same list, and written as
the same text. -/
theorem parseList_join_iff_listable :
    (∀ endpoints, parseList (join endpoints) = .ok endpoints ↔
      endpoints ≠ [] ∧ ∀ endpoint ∈ endpoints, IsListable endpoint) ∧
    ∀ source endpoints, parseList source = .ok endpoints →
      (endpoints ≠ [] ∧ ∀ endpoint ∈ endpoints, IsListable endpoint) ∧
      parseList (join endpoints) = .ok endpoints ∧
      (parseList (join endpoints)).map join = .ok (join endpoints) := by
  have sound {source endpoints} (read : parseList source = .ok endpoints) :
      endpoints ≠ [] ∧ ∀ endpoint ∈ endpoints, IsListable endpoint :=
    ⟨parseList_ne_nil read, listable_of_parseList read⟩
  refine ⟨fun endpoints => ⟨sound, fun ⟨filled, listable⟩ => parseList_join filled listable⟩,
    fun source endpoints read => ?_⟩
  obtain ⟨filled, listable⟩ := sound read
  have again := parseList_join filled listable
  refine ⟨⟨filled, listable⟩, again, ?_⟩
  rw [again]
  rfl

/-- Endpoints of which one has colons in its host, and the other a blank at the end of it. -/
def oddHosts : List Endpoint := [⟨"::1", 0⟩, ⟨"b ", 80⟩]

theorem parseList_join_iff_listable_oddHosts :
    (∀ endpoint ∈ oddHosts, IsListable endpoint) ∧ parseList (join oddHosts) = .ok oddHosts ∧
      parseList " ::1:00,b :+080\n" = .ok oddHosts ∧
      (parseList (join oddHosts)).map join = .ok "::1:0,b :80" := by
  obtain ⟨back, sound⟩ := parseList_join_iff_listable
  have listable : ∀ endpoint ∈ oddHosts, IsListable endpoint := by
    rw [oddHosts, List.forall_mem_cons, List.forall_mem_singleton]
    constructor
    · exact ⟨by decide, by rw [Commaless]; decide, fun char first => by cases first; decide⟩
    · exact ⟨by decide, by rw [Commaless]; decide, fun char first => by cases first; decide⟩
  have read : parseList " ::1:00,b :+080\n" = .ok oddHosts := by decide +kernel
  obtain ⟨-, -, same⟩ := sound _ _ read
  exact ⟨listable, (back oddHosts).mpr ⟨by decide, listable⟩, read, same⟩

end Listing

end Endpoint

end TrainingLauncher
