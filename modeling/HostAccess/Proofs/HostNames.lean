import HostAccess.Host

/-! # Host names as a grammar

What is accepted as a host is what can be put together: labels with dots between them, up to the
length that a name may have, and the wildcard, which is not a name. A check goes over the parts of a
text, and putting together starts from labels. They meet because no label has a dot in it, so that
the parts of what was put together are the labels that went into it. -/
namespace HostAccess

/-! ## Parts -/

/-- To cut a text at a separator is what the library does as well. -/
theorem Text.parts_eq_splitOn (separator : Char) (cs : List Char) :
    parts separator cs = cs.splitOn separator := by
  induction cs with
  | nil => rfl
  | cons c rest ih =>
    rw [parts, List.splitOn_cons_eq_if_modifyHead, ← ih]
    by_cases cut : c = separator
    · rw [if_pos cut, if_pos (beq_iff_eq.mpr cut)]
    · rw [if_neg cut, if_neg (by simpa using cut)]
      cases split : parts separator rest with
      | nil => exact absurd (ih.symm.trans split) (List.splitOn_ne_nil _ _)
      | cons part others => rfl

namespace Host

/-! ## Labels and names -/

/-- What a name is put together from. -/
structure Label (label : String) : Prop where
  nonempty : 1 ≤ label.length
  short : label.length ≤ 63
  spelt : ∀ c ∈ label.toList, ('a' ≤ c ∧ c ≤ 'z') ∨ ('0' ≤ c ∧ c ≤ '9') ∨ c = '-'
  start : ∀ rest, label ≠ "-" ++ rest
  stop : ∀ rest, label ≠ rest ++ "-"

/-- Labels with dots between them, at least one. -/
def Name (host : String) : Prop :=
  ∃ labels : List String, labels ≠ [] ∧ (∀ label ∈ labels, Label label) ∧
    host = ".".intercalate labels

theorem isLabelChar_iff {c : Char} :
    isLabelChar c = true ↔ ('a' ≤ c ∧ c ≤ 'z') ∨ ('0' ≤ c ∧ c ≤ '9') ∨ c = '-' := by
  simp [isLabelChar, or_assoc]

theorem head?_eq_hyphen_iff {label : String} :
    label.toList.head? = some '-' ↔ ∃ rest, label = "-" ++ rest := by
  rw [List.head?_eq_some_iff]
  constructor
  · rintro ⟨rest, same⟩
    exact ⟨String.ofList rest, String.toList_injective (by simp [same])⟩
  · rintro ⟨rest, rfl⟩
    exact ⟨rest.toList, by simp⟩

theorem getLast?_eq_hyphen_iff {label : String} :
    label.toList.getLast? = some '-' ↔ ∃ rest, label = rest ++ "-" := by
  rw [List.getLast?_eq_some_iff]
  constructor
  · rintro ⟨rest, same⟩
    exact ⟨String.ofList rest, String.toList_injective (by simp [same])⟩
  · rintro ⟨rest, rfl⟩
    exact ⟨rest.toList, by simp⟩

theorem isLabel_iff {label : String} : isLabel label.toList = true ↔ Label label := by
  have checks : isLabel label.toList = true ↔
      label.toList ≠ [] ∧ label.toList.length ≤ maxLabelLength ∧ label.toList.head? ≠ some '-' ∧
        label.toList.getLast? ≠ some '-' ∧ ∀ c ∈ label.toList, isLabelChar c = true := by
    simp [isLabel, and_assoc]
  simp only [checks, ne_eq, head?_eq_hyphen_iff, getLast?_eq_hyphen_iff, isLabelChar_iff,
    not_exists]
  constructor
  · rintro ⟨nonempty, short, start, stop, spelt⟩
    exact ⟨List.length_pos_iff.mpr nonempty, short, spelt, start, stop⟩
  · intro label
    exact ⟨List.length_pos_iff.mp label.nonempty, label.short, label.start, label.stop, label.spelt⟩

theorem Label.dotless {label : String} (valid : Label label) : '.' ∉ label.toList := by
  intro dot
  have spelt := valid.spelt '.' dot
  revert spelt
  decide

/-! ## Checking and putting together -/

theorem labels_intercalate {parts : List String} (some : parts ≠ [])
    (valid : ∀ label ∈ parts, Label label) :
    labels (".".intercalate parts).toList = parts.map String.toList := by
  rw [labels, Text.parts_eq_splitOn, String.toList_intercalate]
  refine List.splitOn_intercalate '.' ?_ (by simpa using some)
  intro part listed
  obtain ⟨label, member, rfl⟩ := List.mem_map.mp listed
  exact (valid label member).dotless

theorem intercalate_labels (host : String) :
    host = ".".intercalate ((labels host.toList).map String.ofList) := by
  refine String.toList_injective ?_
  have back : String.toList ∘ String.ofList = id := funext fun _ => String.toList_ofList
  rw [String.toList_intercalate, List.map_map, back, List.map_id, labels, Text.parts_eq_splitOn]
  exact (List.intercalate_splitOn '.').symm

theorem all_isLabel_iff {host : String} : (labels host.toList).all isLabel = true ↔ Name host := by
  rw [List.all_eq_true]
  constructor
  · intro valid
    refine ⟨(labels host.toList).map String.ofList, ?_, ?_, intercalate_labels host⟩
    · rw [labels, Text.parts_eq_splitOn, ne_eq, List.map_eq_nil_iff]
      exact List.splitOn_ne_nil _ _
    · intro label listed
      obtain ⟨part, member, rfl⟩ := List.mem_map.mp listed
      exact isLabel_iff.mp (by rw [String.toList_ofList]; exact valid part member)
  · rintro ⟨parts, some, valid, rfl⟩ part listed
    rw [labels_intercalate some valid] at listed
    obtain ⟨label, member, rfl⟩ := List.mem_map.mp listed
    exact isLabel_iff.mpr (valid label member)

theorem Name.ne_empty {host : String} (name : Name host) : host ≠ "" := by
  rintro rfl
  exact absurd (all_isLabel_iff.mpr name) (by decide)

/-- Two texts with a dot between them are a name if both of them are. -/
theorem name_dot_iff {a b : String} : Name (a ++ "." ++ b) ↔ Name a ∧ Name b := by
  have parts : labels (a ++ "." ++ b).toList = labels a.toList ++ labels b.toList := by
    simp only [labels, Text.parts_eq_splitOn, String.toList_append, List.append_assoc]
    exact List.splitOn_append_cons_self a.toList b.toList
  rw [← all_isLabel_iff, parts, List.all_append, Bool.and_eq_true, all_isLabel_iff, all_isLabel_iff]

/-! ## Validation -/

/-- The hosts that there are. -/
def Accepted (host : String) : Prop := host = "*" ∨ Name host ∧ host.utf8ByteSize ≤ 253

theorem isValid_iff {host : String} : isValid host = true ↔ Accepted host := by
  have checks : isValid host = true ↔
      host = wildcard ∨ (host ≠ "" ∧ host.utf8ByteSize ≤ maxLength) ∧ Name host := by
    rw [← all_isLabel_iff]
    simp [isValid]
  rw [checks]
  refine or_congr_right ⟨fun ⟨⟨_, short⟩, name⟩ => ⟨name, short⟩, fun ⟨name, short⟩ => ?_⟩
  exact ⟨⟨name.ne_empty, short⟩, name⟩

theorem validate_eq_ok_iff {host : String} : validate host = .ok () ↔ Accepted host := by
  rw [← isValid_iff, validate]
  cases isValid host <;> simp

/-- A host that is not accepted is named in the complaint. -/
theorem validate_eq_error_iff {host : String} {e : Error} :
    validate host = .error e ↔ ¬Accepted host ∧ e = .invalidHost host := by
  rw [← isValid_iff, validate]
  cases isValid host <;> simp [eq_comm]

theorem size_dot (a b : String) :
    (a ++ "." ++ b).utf8ByteSize = a.utf8ByteSize + b.utf8ByteSize + 1 := by
  rw [String.utf8ByteSize_append, String.utf8ByteSize_append, Nat.add_right_comm]
  rfl

/-- A host is accepted exactly if it is the wildcard or can be put together from labels within the
length of a name, and is refused by its own spelling otherwise. So of two texts that are not too
long together, and neither of which is the wildcard, the joined one is a host just if both are. -/
theorem validate_exact (host : String) :
    (validate host = .ok () ↔ host = "*" ∨ Name host ∧ host.utf8ByteSize ≤ 253) ∧
      (∀ e, validate host = .error e ↔
        ¬(host = "*" ∨ Name host ∧ host.utf8ByteSize ≤ 253) ∧ e = .invalidHost host) ∧
      ∀ other, host ≠ "*" → other ≠ "*" → host.utf8ByteSize + other.utf8ByteSize + 1 ≤ 253 →
        (validate (host ++ "." ++ other) = .ok () ↔
          validate host = .ok () ∧ validate other = .ok ()) := by
  refine ⟨validate_eq_ok_iff, fun _ => validate_eq_error_iff, fun other plain plain' short => ?_⟩
  -- A text with a dot in it is not the wildcard, and is as long as the bound allows.
  have joined : host ++ "." ++ other ≠ "*" := by
    intro same
    have dot : '.' ∈ (host ++ "." ++ other).toList := by simp
    rw [same] at dot
    revert dot
    decide
  have sizes : (host ++ "." ++ other).utf8ByteSize ≤ 253 := size_dot host other ▸ short
  have size : host.utf8ByteSize ≤ 253 := by omega
  have size' : other.utf8ByteSize ≤ 253 := by omega
  simp only [validate_eq_ok_iff, Accepted, joined, plain, plain', sizes, size, size', false_or,
    and_true]
  exact name_dot_iff

/-- A host under a host is one, and is none under a text that starts with a hyphen. -/
theorem validate_exact_nested :
    validate ("founders" ++ "." ++ "plnetwork.io") = .ok () ∧
      validate ("founders" ++ "." ++ "-io") ≠ .ok () := by
  obtain ⟨-, -, joined⟩ := validate_exact "founders"
  refine ⟨?_, fun valid => ?_⟩
  · exact (joined "plnetwork.io" (by decide) (by decide) (by decide)).mpr ⟨rfl, rfl⟩
  · have outer := ((joined "-io" (by decide) (by decide) (by decide)).mp valid).2
    cases outer

end Host

end HostAccess
