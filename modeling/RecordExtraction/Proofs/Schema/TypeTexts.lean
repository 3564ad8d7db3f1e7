import Mathlib
import RecordExtraction.Proofs.Text.Trimming
import RecordExtraction.Schema.DeclaredType

/-!
# Texts of declared types

A text declares a type of a supported kind when it is one of the names of the kind, or an option of
which such a name is the argument.  Any other text declares a type that is not supported.  The text
that a type is shown as declares the same type again, also where the kind is not supported.
-/

namespace RecordExtraction

/-! ## Names of kinds -/

namespace ScalarKind

variable {kind other : ScalarKind} {name : String}

/-- The canonical name and the other names. -/
def names (kind : ScalarKind) : List String := kind.name :: kind.aliases

theorem isNamed_iff : kind.isNamed name = true ↔ name ∈ kind.names := by
  simp [isNamed, names]

theorem isNamed_name (kind : ScalarKind) : kind.isNamed kind.name = true := by
  simp [isNamed]

/-- No two kinds share a name. -/
theorem eq_of_isNamed (hkind : kind.isNamed name = true) (hother : other.isNamed name = true) :
    kind = other := by
  have hall : ∀ kind ∈ all, ∀ other ∈ all, ∀ name ∈ kind.names, name ∈ other.names →
      kind = other := by decide
  exact hall kind kind.mem_all other other.mem_all name (isNamed_iff.mp hkind)
    (isNamed_iff.mp hother)

theorem isNamed_of_ofName? (hfound : ofName? name = some kind) : kind.isNamed name = true := by
  unfold ofName? at hfound
  have hnamed := List.find?_some hfound
  exact hnamed

theorem ofName?_eq_some_iff : ofName? name = some kind ↔ kind.isNamed name = true := by
  constructor
  · exact isNamed_of_ofName?
  · intro hnamed
    cases hfound : ofName? name with
    | none =>
        have hunnamed := List.find?_eq_none.mp hfound kind kind.mem_all
        exact absurd hnamed hunnamed
    | some other => rw [eq_of_isNamed (isNamed_of_ofName? hfound) hnamed]

theorem trimmed_of_isNamed (hnamed : kind.isNamed name = true) : Trimmed isBlank name.toList := by
  have hall : ∀ kind ∈ all, ∀ name ∈ kind.names,
      (name.toList.head?.all fun c => !isBlank c) = true ∧
        (name.toList.getLast?.all fun c => !isBlank c) = true := by decide
  have hends := hall kind kind.mem_all name (isNamed_iff.mp hnamed)
  simp only [Option.all_eq_true, Bool.not_eq_true'] at hends
  exact ⟨hends.1, hends.2⟩

theorem not_option_of_isNamed (hnamed : kind.isNamed name = true) :
    DeclaredType.optionOpening.isPrefixOf name.toList = false := by
  have hall : ∀ kind ∈ all, ∀ name ∈ kind.names,
      DeclaredType.optionOpening.isPrefixOf name.toList = false := by decide
  exact hall kind kind.mem_all name (isNamed_iff.mp hnamed)

end ScalarKind

namespace TypeKind

variable {kind : ScalarKind} {name : String}

theorem parse_eq_scalar_iff : parse name = .scalar kind ↔ kind.isNamed name = true := by
  rw [← ScalarKind.ofName?_eq_some_iff, parse]
  cases ScalarKind.ofName? name <;> simp

/-- A kind is shown by a canonical name, or by the text it was read from. -/
theorem name_parse_induction (motive : String → Prop) (hgiven : motive name)
    (hcanonical : ∀ kind : ScalarKind, motive kind.name) : motive (parse name).name := by
  unfold parse
  split
  · next kind _ => exact hcanonical kind
  · exact hgiven

theorem parse_name_parse (name : String) : parse (parse name).name = parse name := by
  cases hparse : parse name with
  | scalar kind => exact parse_eq_scalar_iff.mpr kind.isNamed_name
  | unsupported other =>
      rw [parse] at hparse
      split at hparse
      · cases hparse
      · next hunnamed =>
          cases hparse
          rw [TypeKind.name, parse, hunnamed]

end TypeKind

namespace DeclaredType

variable {kind : ScalarKind} {nullable : Bool} {text : String} {core argument : List Char}
  {type : DeclaredType}

/-! ## Options -/

theorem optionArgument?_eq_some_iff :
    optionArgument? core = some argument ↔ core = optionOpening ++ (argument ++ ['>']) := by
  unfold optionArgument?
  constructor
  · intro hargument
    split at hargument
    · next rest hrest =>
        split at hargument
        · next hlast =>
            cases hargument
            rw [afterStart?_eq_some_iff.mp hrest, List.dropLast_append_getLast? _ hlast]
        · cases hargument
    · cases hargument
  · intro hcore
    rw [afterStart?_eq_some_iff.mpr hcore]
    simp

theorem optionArgument?_eq_none (hopening : optionOpening.isPrefixOf core = false) :
    optionArgument? core = none := by
  rw [Option.eq_none_iff_forall_ne_some]
  intro argument hargument
  rw [optionArgument?_eq_some_iff.mp hargument, ← Bool.not_eq_true, List.isPrefixOf_iff_prefix]
    at hopening
  exact hopening (List.prefix_append _ _)

theorem trimmed_option (argument : List Char) :
    Trimmed isBlank (optionOpening ++ (argument ++ ['>'])) := by
  constructor
  · intro c hc
    change some 'O' = some c at hc
    cases hc
    decide
  · intro c hc
    rw [← List.append_assoc, List.getLast?_concat, Option.mem_some_iff] at hc
    rw [← hc]
    decide

/-! ## Reading types -/

/-- How the type is read off a text that has no white space around it. -/
inductive Reads (core : List Char) : DeclaredType → Prop
  | plain (hplain : optionArgument? core = none) : Reads core ⟨.parse (String.ofList core), false⟩
  | nested {argument : List Char} (hargument : optionArgument? core = some argument)
      (hnested : optionOpening.isPrefixOf (trimWhile isBlank argument) = true) :
      Reads core ⟨.unsupported (String.ofList core), false⟩
  | option {argument : List Char} (hargument : optionArgument? core = some argument)
      (hsimple : optionOpening.isPrefixOf (trimWhile isBlank argument) = false) :
      Reads core ⟨.parse (String.ofList (trimWhile isBlank argument)), true⟩

theorem reads_parse (text : String) : Reads (trimWhile isBlank text.toList) (parse text) := by
  unfold parse
  dsimp only
  split
  · next argument hargument =>
      split
      · next hnested => exact .nested hargument hnested
      · next hsimple => exact .option hargument (Bool.not_eq_true _ ▸ hsimple)
  · next hplain => exact .plain hplain

theorem parse_of_reads (hreads : Reads (trimWhile isBlank text.toList) type) :
    parse text = type := by
  unfold parse
  dsimp only
  cases hreads with
  | plain hplain => rw [hplain]
  | nested hargument hnested => rw [hargument]; exact if_pos hnested
  | option hargument hsimple =>
      rw [hargument]
      exact if_neg (Bool.not_eq_true _ ▸ hsimple)

/-! ## Texts that declare supported types -/

/-- A name of the kind, or an option of one with white space around the name. -/
inductive Spells (kind : ScalarKind) : Bool → List Char → Prop
  | required {name : String} (hname : kind.isNamed name = true) : Spells kind false name.toList
  | nullable {name : String} {before after : List Char} (hname : kind.isNamed name = true)
      (hbefore : ∀ c ∈ before, isBlank c = true) (hafter : ∀ c ∈ after, isBlank c = true) :
      Spells kind true ("Option<".toList ++ (before ++ (name.toList ++ after) ++ ['>']))

/-- The text spells a type of the kind, with white space around it. -/
def Declares (text : String) (kind : ScalarKind) (nullable : Bool) : Prop :=
  ∃ front core back,
    text.toList = front ++ (core ++ back) ∧
    (∀ c ∈ front, isBlank c = true) ∧
    (∀ c ∈ back, isBlank c = true) ∧
    Spells kind nullable core

theorem Spells.trimmed (hspells : Spells kind nullable core) : Trimmed isBlank core := by
  cases hspells with
  | required hname => exact ScalarKind.trimmed_of_isNamed hname
  | nullable hname hbefore hafter => exact trimmed_option _

theorem Spells.reads (hspells : Spells kind nullable core) :
    Reads core ⟨.scalar kind, nullable⟩ := by
  cases hspells with
  | required hname =>
      have hplain := optionArgument?_eq_none (ScalarKind.not_option_of_isNamed hname)
      have hreads := Reads.plain hplain
      rw [String.ofList_toList, TypeKind.parse_eq_scalar_iff.mpr hname] at hreads
      exact hreads
  | @nullable name before after hname hbefore hafter =>
      have htrimmed : trimWhile isBlank (before ++ (name.toList ++ after)) = name.toList :=
        (ScalarKind.trimmed_of_isNamed hname).trimWhile_padded hbefore hafter
      have hsimple : optionOpening.isPrefixOf
          (trimWhile isBlank (before ++ (name.toList ++ after))) = false := by
        rw [htrimmed]
        exact ScalarKind.not_option_of_isNamed hname
      have hreads := Reads.option (optionArgument?_eq_some_iff.mpr rfl) hsimple
      rw [htrimmed, String.ofList_toList, TypeKind.parse_eq_scalar_iff.mpr hname] at hreads
      exact hreads

theorem spells_of_reads (hreads : Reads core ⟨.scalar kind, nullable⟩) :
    Spells kind nullable core := by
  generalize htype : (⟨.scalar kind, nullable⟩ : DeclaredType) = type at hreads
  cases hreads with
  | plain hplain =>
      rw [DeclaredType.mk.injEq] at htype
      rcases htype with ⟨hkind, rfl⟩
      have hname := TypeKind.parse_eq_scalar_iff.mp hkind.symm
      rw [← String.toList_ofList (l := core)]
      exact .required hname
  | nested hargument hnested => cases htype
  | @option argument hargument hsimple =>
      rw [DeclaredType.mk.injEq] at htype
      rcases htype with ⟨hkind, rfl⟩
      have hname := TypeKind.parse_eq_scalar_iff.mp hkind.symm
      rcases exists_trimWhile isBlank argument with ⟨after, hafter, hsplit⟩
      have hbefore : ∀ c ∈ argument.takeWhile isBlank, isBlank c = true := by
        intro c hc
        exact List.mem_takeWhile_imp hc
      have hspells := Spells.nullable hname hbefore hafter
      rw [String.toList_ofList (l := trimWhile isBlank argument), ← hsplit] at hspells
      rw [optionArgument?_eq_some_iff.mp hargument]
      exact hspells

theorem parse_eq_scalar_iff :
    parse text = ⟨.scalar kind, nullable⟩ ↔ Declares text kind nullable := by
  constructor
  · intro hparse
    have hreads := reads_parse text
    rw [hparse] at hreads
    rcases exists_trimWhile isBlank text.toList with ⟨back, hback, hsplit⟩
    refine ⟨_, _, back, hsplit, ?_, hback, spells_of_reads hreads⟩
    intro c hc
    exact List.mem_takeWhile_imp hc
  · intro hdeclares
    rcases hdeclares with ⟨front, core, back, htext, hfront, hback, hspells⟩
    apply parse_of_reads
    rw [htext, hspells.trimmed.trimWhile_padded hfront hback]
    exact hspells.reads

theorem isSupported_parse_iff :
    (parse text).isSupported = true ↔ ∃ kind nullable, Declares text kind nullable := by
  constructor
  · intro hsupported
    cases hparse : parse text with
    | mk declared nullable =>
        cases declared with
        | scalar kind => exact ⟨kind, nullable, parse_eq_scalar_iff.mp hparse⟩
        | unsupported name =>
            rw [hparse] at hsupported
            cases hsupported
  · intro hdeclares
    rcases hdeclares with ⟨kind, nullable, hdeclares⟩
    rw [parse_eq_scalar_iff.mpr hdeclares]
    rfl

/-! ## Texts that types are shown as -/

section

variable {name : String}

theorem trimmed_name_parse (htrimmed : Trimmed isBlank name.toList) :
    Trimmed isBlank (TypeKind.parse name).name.toList := by
  apply TypeKind.name_parse_induction fun shown => Trimmed isBlank shown.toList
  · exact htrimmed
  · intro kind
    exact ScalarKind.trimmed_of_isNamed kind.isNamed_name

theorem not_option_name_parse (hsimple : optionOpening.isPrefixOf name.toList = false) :
    optionOpening.isPrefixOf (TypeKind.parse name).name.toList = false := by
  apply TypeKind.name_parse_induction fun shown => optionOpening.isPrefixOf shown.toList = false
  · exact hsimple
  · intro kind
    exact ScalarKind.not_option_of_isNamed kind.isNamed_name

theorem optionArgument?_name_parse (hplain : optionArgument? name.toList = none) :
    optionArgument? (TypeKind.parse name).name.toList = none := by
  apply TypeKind.name_parse_induction fun shown => optionArgument? shown.toList = none
  · exact hplain
  · intro kind
    exact optionArgument?_eq_none (ScalarKind.not_option_of_isNamed kind.isNamed_name)

/-- A name that is no option, written as the argument of one. -/
theorem reads_option (htrimmed : Trimmed isBlank name.toList)
    (hsimple : optionOpening.isPrefixOf name.toList = false) :
    Reads (optionOpening ++ (name.toList ++ ['>'])) ⟨.parse name, true⟩ := by
  rw [← htrimmed.trimWhile_eq] at hsimple
  have hreads := Reads.option (optionArgument?_eq_some_iff.mpr rfl) hsimple
  rwa [htrimmed.trimWhile_eq, String.ofList_toList] at hreads

end

/-- A type that was read is read again from what it is shown as. -/
theorem Reads.parse_display (hreads : Reads core type) (htrimmed : Trimmed isBlank core) :
    parse type.display = type := by
  apply parse_of_reads
  cases hreads with
  | plain hplain =>
      rw [← String.toList_ofList (l := core)] at hplain htrimmed
      have hagain := Reads.plain (optionArgument?_name_parse hplain)
      rw [String.ofList_toList, TypeKind.parse_name_parse] at hagain
      change Reads (trimWhile isBlank (TypeKind.parse (String.ofList core)).name.toList) _
      rw [(trimmed_name_parse htrimmed).trimWhile_eq]
      exact hagain
  | nested hargument hnested =>
      change Reads (trimWhile isBlank (String.ofList core).toList) _
      rw [String.toList_ofList, htrimmed.trimWhile_eq]
      exact .nested hargument hnested
  | @option argument hargument hsimple =>
      have hinner : Trimmed isBlank (trimWhile isBlank argument) := trimmed_trimWhile
      rw [← String.toList_ofList (l := trimWhile isBlank argument)] at hsimple hinner
      have hagain := reads_option (trimmed_name_parse hinner) (not_option_name_parse hsimple)
      rw [TypeKind.parse_name_parse] at hagain
      simp only [display, if_true, String.toList_append, String.toList_ofList, List.append_assoc]
      change Reads (trimWhile isBlank (optionOpening ++ (_ ++ ['>']))) _
      rw [(trimmed_option _).trimWhile_eq]
      exact hagain

end DeclaredType

open DeclaredType

/-- A text declares a type of a supported kind exactly when, between white space, it is a name of
the kind or an option with such a name as its argument and white space around the name; the type is
required in the first case and nullable in the second one.  Whatever a text declares, the type is
declared again by the text that it is shown as. -/
theorem texts_declare_types (text : String) :
    ((parse text).isSupported = true ↔ ∃ kind nullable, Declares text kind nullable) ∧
    (∀ kind nullable, parse text = ⟨.scalar kind, nullable⟩ ↔ Declares text kind nullable) ∧
    parse (parse text).display = parse text := by
  refine ⟨isSupported_parse_iff, ?_, ?_⟩
  · intro kind nullable
    exact parse_eq_scalar_iff
  · exact (reads_parse text).parse_display trimmed_trimWhile

example : parse " Option< int > " = ⟨.scalar (.integer .bits32), true⟩ ∧
    (parse " Option< int > ").display = "Option<i32>" := by decide

example : parse "Option< Option<i32>>" = ⟨.unsupported "Option< Option<i32>>", false⟩ := by decide

end RecordExtraction
