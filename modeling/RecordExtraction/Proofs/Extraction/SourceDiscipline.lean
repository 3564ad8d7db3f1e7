import Mathlib
import RecordExtraction.Proofs.Extraction.TypedRecords
import RecordExtraction.Proofs.Source.Supply

/-!
# Constructions and their sources

A construction takes no more bytes from its source than it needs to tell that there are too many of
them, and closes the source once when it has read the last one.  Its outcome depends on what the
source supplies, not on the deliveries in which it does so, nor on how closing it goes.
-/

namespace RecordExtraction

open Locator Markup

theorem Source.readAll_calls (source : Source) (limit : Nat) :
    (source.readAll limit).2.calls =
      source.calls ++ (drain (room limit) source.script).calls := by
  unfold readAll
  dsimp only
  split
  · rfl
  · split <;> rfl

theorem Source.room_eq_succ {limit : Nat} (hlimit : limit + 1 < 2 ^ 64) :
    room limit = limit + 1 := by
  have hbound : byteCountBound = 2 ^ 64 := rfl
  rw [room, hbound]
  omega

/-- Neither decoding nor parsing reports a fault of the source. -/
theorem documentOfBytes_ne_fault {options : InputOptions} {bytes : List UInt8}
    {fault : SourceFault} :
    documentOfBytes options bytes ≠ .error fault.toInputError := by
  intro herror
  rw [documentOfBytes, bind_eq_error_iff] at herror
  rcases herror with hdecode | ⟨text, -, hparse⟩
  · unfold decodeInput at hdecode
    split at hdecode <;> cases fault <;> cases hdecode
  · unfold parseInput at hparse
    split at hparse <;> cases fault <;> cases hparse

namespace Factory

variable {factory : Factory} {source : Source} {bytes : List UInt8}

theorem constructFrom_calls (factory : Factory) (source : Source) :
    (factory.constructFrom source).source.calls =
      source.calls ++ (drain (Source.room factory.options.inputLimit) source.script).calls ++
        [.close] := by
  have hafter :
      (factory.readDocument source).2 = (source.readAll factory.options.inputLimit).2 := by
    unfold readDocument
    split <;> simp [*]
  change (factory.readDocument source).2.calls ++ [.close] = _
  rw [hafter, Source.readAll_calls]

theorem outcome_of_failure {message : String}
    (h : Arrives (Source.room factory.options.inputLimit) source.script bytes (some message)) :
    (factory.constructFrom source).outcome = .error (.input (.read message)) := by
  obtain ⟨-, hfailure⟩ := h.drain_eq
  change factory.outcome (factory.readDocument source).1 = _
  simp [readDocument, Source.readAll, hfailure, outcome, SourceFault.toInputError]

theorem outcome_of_tooLarge
    (h : Arrives (Source.room factory.options.inputLimit) source.script bytes none)
    (hlimit : factory.options.inputLimit < bytes.length) :
    (factory.constructFrom source).outcome =
      .error (.input (.tooLarge factory.options.inputLimit)) := by
  obtain ⟨hbytes, hfailure⟩ := h.drain_eq
  change factory.outcome (factory.readDocument source).1 = _
  simp [readDocument, Source.readAll, hbytes, hfailure, hlimit, outcome, SourceFault.toInputError]

theorem outcome_of_bytes
    (h : Arrives (Source.room factory.options.inputLimit) source.script bytes none)
    (hlimit : bytes.length ≤ factory.options.inputLimit) :
    (factory.constructFrom source).outcome =
      factory.outcome (documentOfBytes factory.options bytes) := by
  obtain ⟨hbytes, hfailure⟩ := h.drain_eq
  change factory.outcome (factory.readDocument source).1 = _
  simp [readDocument, Source.readAll, hbytes, hfailure, hlimit.not_gt]

theorem outcome_ne_fault (fault : SourceFault) :
    factory.outcome (documentOfBytes factory.options bytes) ≠
      .error (.input fault.toInputError) := by
  intro herror
  cases hdocument : documentOfBytes factory.options bytes with
  | error cause =>
      simp only [hdocument, outcome, Except.error.injEq, ConstructError.input.injEq] at herror
      exact documentOfBytes_ne_fault (herror ▸ hdocument)
  | ok document =>
      rw [hdocument] at herror
      obtain ⟨property, hproperty⟩ := exists_property_of_realize_eq_error herror
      cases hproperty

theorem outcome_eq_tooLarge_iff :
    (factory.constructFrom source).outcome =
        .error (.input (.tooLarge factory.options.inputLimit)) ↔
      ∃ bytes, Arrives (Source.room factory.options.inputLimit) source.script bytes none ∧
        factory.options.inputLimit < bytes.length := by
  constructor
  · intro houtcome
    obtain ⟨bytes, failure, harrives⟩ :=
      exists_arrives (Source.room factory.options.inputLimit) source.script
    cases failure with
    | some message =>
        rw [outcome_of_failure harrives] at houtcome
        cases houtcome
    | none =>
        refine ⟨bytes, harrives, ?_⟩
        by_contra hlimit
        rw [outcome_of_bytes harrives (Nat.not_lt.mp hlimit)] at houtcome
        exact outcome_ne_fault (.tooLarge _) houtcome
  · rintro ⟨bytes, harrives, hlimit⟩
    exact outcome_of_tooLarge harrives hlimit

theorem outcome_eq_read_iff {message : String} :
    (factory.constructFrom source).outcome = .error (.input (.read message)) ↔
      ∃ bytes,
        Arrives (Source.room factory.options.inputLimit) source.script bytes (some message) := by
  constructor
  · intro houtcome
    obtain ⟨bytes, failure, harrives⟩ :=
      exists_arrives (Source.room factory.options.inputLimit) source.script
    refine ⟨bytes, ?_⟩
    cases failure with
    | some other =>
        rw [outcome_of_failure harrives] at houtcome
        cases houtcome
        exact harrives
    | none =>
        rcases Nat.lt_or_ge factory.options.inputLimit bytes.length with hlimit | hlimit
        · rw [outcome_of_tooLarge harrives hlimit] at houtcome
          cases houtcome
        · rw [outcome_of_bytes harrives hlimit] at houtcome
          exact absurd houtcome (outcome_ne_fault (.failed _))
  · rintro ⟨bytes, harrives⟩
    exact outcome_of_failure harrives

/-- Below the greatest limit there is room for one byte more than the limit, so the source alone
decides what arrives. -/
theorem outcome_below_greatest_limit (hlimit : factory.options.inputLimit + 1 < 2 ^ 64) :
    ((factory.constructFrom source).outcome =
        .error (.input (.tooLarge factory.options.inputLimit)) ↔
      ∃ bytes, Offers source.script bytes ∧ factory.options.inputLimit < bytes.length) ∧
    (∀ message, (factory.constructFrom source).outcome = .error (.input (.read message)) ↔
      ∃ bytes, EndsAfter source.script bytes (some message) ∧
        bytes.length ≤ factory.options.inputLimit) ∧
    ∀ bytes, EndsAfter source.script bytes none → bytes.length ≤ factory.options.inputLimit →
      (factory.constructFrom source).outcome =
        factory.outcome (documentOfBytes factory.options bytes) := by
  have hroom := Source.room_eq_succ hlimit
  refine ⟨?_, ?_, ?_⟩
  · rw [outcome_eq_tooLarge_iff, hroom, exists_arrives_above_iff]
  · intro message
    simp only [outcome_eq_read_iff, hroom, arrives_failure_iff]
  · intro bytes hends hlength
    refine outcome_of_bytes (.all hends ?_) hlength
    exact hroom ▸ Nat.lt_succ_of_le hlength

/-- Sources that look the same to the reader give the same outcome. -/
theorem outcome_eq_of_arrives {other : Source} {failure : Option String}
    (h : Arrives (Source.room factory.options.inputLimit) source.script bytes failure)
    (hother : Arrives (Source.room factory.options.inputLimit) other.script bytes failure) :
    (factory.constructFrom source).outcome = (factory.constructFrom other).outcome := by
  cases failure with
  | some message => rw [outcome_of_failure h, outcome_of_failure hother]
  | none =>
      rcases Nat.lt_or_ge factory.options.inputLimit bytes.length with hlimit | hlimit
      · rw [outcome_of_tooLarge h hlimit, outcome_of_tooLarge hother hlimit]
      · rw [outcome_of_bytes h hlimit, outcome_of_bytes hother hlimit]

theorem outcome_eq_of_sameSupply {other : Source}
    (hsame : SameSupply source.script other.script) :
    (factory.constructFrom other).outcome = (factory.constructFrom source).outcome := by
  obtain ⟨bytes, failure, harrives⟩ :=
    exists_arrives (Source.room factory.options.inputLimit) source.script
  exact (outcome_eq_of_arrives harrives (hsame.arrives_iff.mp harrives)).symm

/-- A source that hands out bytes until its end is as good as the bytes themselves. -/
theorem outcome_eq_constructBytes (hends : EndsAfter source.script bytes none) :
    (factory.constructFrom source).outcome = factory.constructBytes bytes := by
  obtain ⟨found, failure, harrives, hother⟩ :=
    exists_arrives_of_endsAfter hends (endsAfter_bytes bytes)
      (Source.room factory.options.inputLimit)
  exact outcome_eq_of_arrives harrives hother

/-- A run on a beginning of a script that the reader does not get beyond is the run on the whole. -/
theorem constructFrom_of_settles {script : List Delivery}
    (hsettles : Settles (Source.room factory.options.inputLimit) script) (later : List Delivery) :
    (factory.constructFrom { source with script := script ++ later }).outcome =
        (factory.constructFrom { source with script }).outcome ∧
      (factory.constructFrom { source with script := script ++ later }).source.calls =
        (factory.constructFrom { source with script }).source.calls := by
  obtain ⟨bytes, failure, calls, hdrain⟩ := hsettles
  obtain ⟨_, hlater⟩ := hdrain later
  obtain ⟨_, hscript⟩ := hdrain []
  rw [List.append_nil] at hscript
  constructor
  · have harrivesLater :=
      drain_arrives (Source.room factory.options.inputLimit) (script ++ later)
    have harrives := drain_arrives (Source.room factory.options.inputLimit) script
    rw [hlater] at harrivesLater
    rw [hscript] at harrives
    exact outcome_eq_of_arrives harrivesLater harrives
  · simp [constructFrom_calls, hlater, hscript]

/-- The calls of a construction are reads, which get no more bytes than one above the limit, and
then one call to close the source. -/
theorem exists_reads (factory : Factory) (source : Source) :
    ∃ reads : List SourceCall,
      (factory.constructFrom source).source.calls = source.calls ++ reads ++ [.close] ∧
      .close ∉ reads ∧
      (reads.map SourceCall.served).sum ≤ min (factory.options.inputLimit + 1) (2 ^ 64 - 1) := by
  obtain ⟨hclose, hserved⟩ :=
    drain_calls (Source.room factory.options.inputLimit) source.script
  have hroom :=
    (drain_arrives (Source.room factory.options.inputLimit) source.script).length_le
  refine ⟨_, constructFrom_calls factory source, hclose, ?_⟩
  rw [hserved]
  exact hroom

end Factory

/-- For every source and every limit:

* a construction reads at most one byte more than the limit, or as many as can be counted, and then
  closes the source once; how closing it goes has no influence on the outcome;
* the input is too large when more bytes than the limit arrive, reading it fails when a failure
  arrives before that, and otherwise the outcome is that of the bytes that arrived.  Below the
  greatest limit, what arrives is what the source hands out before it ends or fails;
* a source that supplies the same in other deliveries gives the same outcome, and so do the bytes
  alone;
* of deliveries without end only a beginning is looked at, unless they all are interruptions from
  some point on. -/
theorem constructFrom_keepsSourceDiscipline (factory : Factory) (source : Source) :
    let limit := factory.options.inputLimit
    let run := factory.constructFrom source
    (∃ reads : List SourceCall,
      run.source.calls = source.calls ++ reads ++ [.close] ∧
      .close ∉ reads ∧
      (reads.map SourceCall.served).sum ≤ min (limit + 1) (2 ^ 64 - 1)) ∧
    (∀ closeFailure,
      (factory.constructFrom { source with closeFailure }).outcome = run.outcome) ∧
    (run.outcome = .error (.input (.tooLarge limit)) ↔
      ∃ bytes, Arrives (Source.room limit) source.script bytes none ∧ limit < bytes.length) ∧
    (∀ message, run.outcome = .error (.input (.read message)) ↔
      ∃ bytes, Arrives (Source.room limit) source.script bytes (some message)) ∧
    (∀ bytes, Arrives (Source.room limit) source.script bytes none → bytes.length ≤ limit →
      run.outcome = factory.outcome (documentOfBytes factory.options bytes)) ∧
    (limit + 1 < 2 ^ 64 →
      (run.outcome = .error (.input (.tooLarge limit)) ↔
        ∃ bytes, Offers source.script bytes ∧ limit < bytes.length) ∧
      (∀ message, run.outcome = .error (.input (.read message)) ↔
        ∃ bytes, EndsAfter source.script bytes (some message) ∧ bytes.length ≤ limit) ∧
      ∀ bytes, EndsAfter source.script bytes none → bytes.length ≤ limit →
        run.outcome = factory.outcome (documentOfBytes factory.options bytes)) ∧
    (∀ other, SameSupply source.script other.script →
      (factory.constructFrom other).outcome = run.outcome) ∧
    (∀ bytes, EndsAfter source.script bytes none →
      run.outcome = factory.constructBytes bytes) ∧
    ∀ deliveries : Nat → Delivery,
      (∀ count, ∃ place ≥ count, deliveries place ≠ .interrupted) →
        ∃ count, ∀ later,
          let start := firstDeliveries deliveries count
          (factory.constructFrom { source with script := start ++ later }).outcome =
              (factory.constructFrom { source with script := start }).outcome ∧
            (factory.constructFrom { source with script := start ++ later }).source.calls =
              (factory.constructFrom { source with script := start }).source.calls := by
  intro limit run
  refine ⟨factory.exists_reads source,
    fun _ => Factory.outcome_eq_of_sameSupply (.refl source.script),
    Factory.outcome_eq_tooLarge_iff, fun _ => Factory.outcome_eq_read_iff,
    fun _ => Factory.outcome_of_bytes, Factory.outcome_below_greatest_limit,
    fun _ => Factory.outcome_eq_of_sameSupply, fun _ => Factory.outcome_eq_constructBytes, ?_⟩
  intro deliveries hgoesOn
  obtain ⟨count, hsettles⟩ := exists_settles hgoesOn (Source.room limit)
  exact ⟨count, Factory.constructFrom_of_settles hsettles⟩

/-- A pet in two parts, each after an interruption, and a failure that is never met. -/
def cutSource : Source where
  script :=
    [.interrupted, .bytes [0x3c, 0x70, 0x20, 0x79], .interrupted,
      .bytes [0x3d, 0x27, 0x33, 0x27, 0x2f, 0x3e], .bytes [], .failure "late"]
  closeFailure := some "stuck"
  calls := []

/-- The bytes of the pet, `<p y='3'/>`. -/
def petBytes : List UInt8 := [0x3c, 0x70, 0x20, 0x79, 0x3d, 0x27, 0x33, 0x27, 0x2f, 0x3e]

/-- A source that fails after its first byte. -/
def failingSource : Source := ⟨[.bytes [0x3c], .failure "gone"], none, []⟩

/-- Takes at most four bytes. -/
def tinyFactory : Factory := ⟨petPlan, firstAttribute, ⟨false, 100, 4⟩⟩

theorem constructFrom_cutSource_keepsSourceDiscipline :
    (EndsAfter cutSource.script petBytes none ∧
      (petFactory.constructFrom cutSource).outcome = petFactory.constructBytes petBytes ∧
      (petFactory.constructFrom cutSource).outcome = .ok petRecord) ∧
    (tinyFactory.options.inputLimit + 1 < 2 ^ 64 ∧
      (tinyFactory.constructFrom cutSource).outcome = .error (.input (.tooLarge 4)) ∧
      ∃ reads : List SourceCall,
        (tinyFactory.constructFrom cutSource).source.calls = reads ++ [.close] ∧
        .close ∉ reads ∧
        (reads.map SourceCall.served).sum ≤ 5) ∧
    (tinyFactory.constructFrom failingSource).outcome = .error (.input (.read "gone")) ∧
    ∃ count, ∀ later,
      (tinyFactory.constructFrom
        ⟨firstDeliveries (fun _ => .bytes [0x20]) count ++ later, some "stuck", []⟩).outcome =
      (tinyFactory.constructFrom
        ⟨firstDeliveries (fun _ => .bytes [0x20]) count, some "stuck", []⟩).outcome := by
  have hends : EndsAfter cutSource.script petBytes none := by
    have hsecond : EndsAfter (cutSource.script.drop 3) [0x3d, 0x27, 0x33, 0x27, 0x2f, 0x3e] none :=
      .whole (List.cons_ne_nil _ _) .emptyRead
    exact .retry (.whole (List.cons_ne_nil _ _) (.retry hsecond))
  have hfails : EndsAfter failingSource.script [0x3c] (some "gone") :=
    .whole (List.cons_ne_nil _ _) .failure
  have hrecord : petFactory.constructBytes petBytes = .ok petRecord := by cbv
  have hlimit : tinyFactory.options.inputLimit + 1 < 2 ^ 64 := by decide
  obtain ⟨-, -, -, -, -, -, -, hbytes, -⟩ :=
    constructFrom_keepsSourceDiscipline petFactory cutSource
  obtain ⟨hreads, -, -, -, -, hbelow, -, -, hendless⟩ :=
    constructFrom_keepsSourceDiscipline tinyFactory cutSource
  obtain ⟨-, -, -, -, -, hbelowFailing, -⟩ :=
    constructFrom_keepsSourceDiscipline tinyFactory failingSource
  obtain ⟨htooLarge, -, -⟩ := hbelow hlimit
  obtain ⟨-, hfailure, -⟩ := hbelowFailing hlimit
  obtain ⟨count, hcount⟩ :=
    hendless (fun _ => .bytes [0x20]) fun count => ⟨count, le_rfl, by simp⟩
  refine ⟨⟨hends, hbytes _ hends, (hbytes _ hends).trans hrecord⟩,
    ⟨hlimit, ?_, hreads⟩, ?_, count, fun later => (hcount later).1⟩
  · exact htooLarge.mpr ⟨petBytes, hends.offers, by decide⟩
  · exact (hfailure "gone").mpr ⟨[0x3c], hfails, by decide⟩

end RecordExtraction
