import Mathlib
import RecordExtraction.Proofs.Schema.TypeTexts
import RecordExtraction.Schema.Entry

/-!
# Two ways to declare a property nullable

An entry can say in the text of its type that a property is nullable, or with its flag.  The two
ways lead to the same property for every type, supported or not, unless the type is written as an
option already: an option around it would be nested, and the text of a nested option is the name of
an unsupported kind.  That name is longer than any name that is read off the type itself.
-/

namespace RecordExtraction

variable {text name : String} {core : List Char}

/-! ## Names of unsupported kinds -/

theorem TypeKind.parse_eq_unsupported {other : String}
    (hparse : parse name = .unsupported other) : other = name := by
  unfold parse at hparse
  split at hparse
  · cases hparse
  · cases hparse
    rfl

theorem length_trimWhile_le (p : Char → Bool) (chars : List Char) :
    (trimWhile p chars).length ≤ chars.length := by
  rcases exists_trimWhile p chars with ⟨tail, -, hsplit⟩
  have hlength := congrArg List.length hsplit
  rw [List.length_append, List.length_append] at hlength
  omega

namespace DeclaredType

theorem Reads.length_name_le {type : DeclaredType} (hreads : Reads core type)
    (hkind : type.kind = .unsupported name) : name.toList.length ≤ core.length := by
  cases hreads with
  | plain hplain =>
      rw [TypeKind.parse_eq_unsupported hkind, String.toList_ofList]
  | nested hargument hnested =>
      cases hkind
      rw [String.toList_ofList]
  | @option argument hargument hsimple =>
      have hcore := congrArg List.length (optionArgument?_eq_some_iff.mp hargument)
      have hinner := length_trimWhile_le isBlank argument
      rw [List.length_append, List.length_append] at hcore
      rw [TypeKind.parse_eq_unsupported hkind, String.toList_ofList]
      omega

theorem length_name_le (hkind : (parse text).kind = .unsupported name) :
    name.toList.length ≤ text.toList.length :=
  ((reads_parse text).length_name_le hkind).trans (length_trimWhile_le isBlank text.toList)

/-! ## A type as the argument of an option -/

/-- The text begins as an option does, after any white space. -/
def BeginsAsOption (text : String) : Prop :=
  optionOpening <+: trimWhile isBlank text.toList

theorem isPrefixOf_eq_false_of_not_beginsAsOption (hplain : ¬BeginsAsOption text) :
    optionOpening.isPrefixOf (trimWhile isBlank text.toList) = false := by
  rw [← Bool.not_eq_true, List.isPrefixOf_iff_prefix]
  exact hplain

theorem parse_of_not_beginsAsOption (hplain : ¬BeginsAsOption text) :
    parse text = ⟨.parse (String.ofList (trimWhile isBlank text.toList)), false⟩ := by
  apply parse_of_reads
  apply Reads.plain
  exact optionArgument?_eq_none (isPrefixOf_eq_false_of_not_beginsAsOption hplain)

/-- The type is written as the argument of an option. -/
def inOption (text : String) : String := "Option<" ++ text ++ ">"

theorem toList_inOption (text : String) :
    (inOption text).toList = optionOpening ++ (text.toList ++ ['>']) := by
  unfold inOption
  rw [String.toList_append, String.toList_append, List.append_assoc]
  rfl

theorem trimWhile_inOption (text : String) :
    trimWhile isBlank (inOption text).toList = optionOpening ++ (text.toList ++ ['>']) := by
  rw [toList_inOption]
  exact (trimmed_option _).trimWhile_eq

theorem parse_inOption_of_not_beginsAsOption (hplain : ¬BeginsAsOption text) :
    parse (inOption text) = ⟨.parse (String.ofList (trimWhile isBlank text.toList)), true⟩ := by
  apply parse_of_reads
  rw [trimWhile_inOption]
  apply Reads.option (optionArgument?_eq_some_iff.mpr rfl)
  exact isPrefixOf_eq_false_of_not_beginsAsOption hplain

theorem parse_inOption_of_beginsAsOption (hnested : BeginsAsOption text) :
    parse (inOption text) = ⟨.unsupported (inOption text), false⟩ := by
  have hname : String.ofList (optionOpening ++ (text.toList ++ ['>'])) = inOption text := by
    rw [← toList_inOption, String.ofList_toList]
  apply parse_of_reads
  rw [trimWhile_inOption, ← hname]
  apply Reads.nested (optionArgument?_eq_some_iff.mpr rfl)
  exact List.isPrefixOf_iff_prefix.mpr hnested

/-- An option around an option changes the kind. -/
theorem kind_parse_inOption_ne (hnested : BeginsAsOption text) :
    (parse (inOption text)).kind ≠ (parse text).kind := by
  rw [parse_inOption_of_beginsAsOption hnested]
  intro hkind
  have hshort := length_name_le hkind.symm
  rw [toList_inOption, List.length_append, List.length_append] at hshort
  have hopening : optionOpening.length = 7 := rfl
  omega

end DeclaredType

/-! ## Entries -/

namespace PropertyEntry

/-- The entry with the flag set as given. -/
def flagged (entry : PropertyEntry) (flag : Bool) : PropertyEntry :=
  { entry with nullable := flag }

/-- The entry with its type written as the argument of an option. -/
def inOption (entry : PropertyEntry) : PropertyEntry :=
  { entry with typeName := DeclaredType.inOption entry.typeName }

variable {entry : PropertyEntry}

theorem kind_toProperty :
    entry.toProperty.type.kind = (DeclaredType.parse entry.typeName).kind := by
  unfold toProperty
  dsimp only
  split <;> rfl

end PropertyEntry

open DeclaredType

/-- Whether its flag is set or not, an entry with an option around its type declares the same
property as the entry with the flag and without the option exactly when the type is not written as
an option itself.  Whatever the type is, the flag leaves the name, the locator and the kind as they
are and makes the type nullable, and without the flag the type is what its text says. -/
theorem entries_declare_nullability (entry : PropertyEntry) :
    (∀ flag, (entry.flagged true).toProperty = (entry.inOption.flagged flag).toProperty ↔
      ¬BeginsAsOption entry.typeName) ∧
    (entry.flagged false).toProperty = ⟨entry.name, parse entry.typeName, entry.path⟩ ∧
    (entry.flagged true).toProperty =
      ⟨entry.name, ⟨(parse entry.typeName).kind, true⟩, entry.path⟩ := by
  refine ⟨?_, rfl, rfl⟩
  intro flag
  constructor
  · intro hsame hnested
    have hkind := congrArg (fun property : Property => property.type.kind) hsame
    rw [PropertyEntry.kind_toProperty, PropertyEntry.kind_toProperty] at hkind
    exact kind_parse_inOption_ne hnested hkind.symm
  · intro hplain
    have htype := parse_of_not_beginsAsOption hplain
    have hoption := parse_inOption_of_not_beginsAsOption hplain
    simp only [PropertyEntry.toProperty, PropertyEntry.flagged, PropertyEntry.inOption, htype,
      hoption, intoNullable]
    cases flag <;> rfl

example :
    (PropertyEntry.mk "days" " Vec<i32" none true).toProperty =
      (PropertyEntry.mk "days" "Option< Vec<i32>" none false).toProperty := by decide

end RecordExtraction
