import Mathlib
import RecordExtraction.Source.Basic

/-!
# What sources supply

What a script supplies is a matter of its deliveries alone: the bytes in their order, and how they
stop.  How the bytes are cut into deliveries, where a read is interrupted and what comes after the
stop does not count.  A reader with room for some bytes gets all that is supplied, or as many bytes
as it has room for; then it asks no more.
-/

namespace RecordExtraction

/-- The bytes are the first that the script hands out, whatever comes after them. -/
inductive Offers : List Delivery → List UInt8 → Prop
  | nothing {script : List Delivery} : Offers script []
  | part {content bytes : List UInt8} {rest : List Delivery} (h : bytes <+: content) :
      Offers (.bytes content :: rest) bytes
  | whole {content bytes : List UInt8} {rest : List Delivery} (hsome : content ≠ [])
      (h : Offers rest bytes) :
      Offers (.bytes content :: rest) (content ++ bytes)
  | cyclePart {content bytes : List UInt8} {rest : List Delivery} (h : bytes <+: content) :
      Offers (.endless content :: rest) bytes
  | cycle {content bytes : List UInt8} {rest : List Delivery}
      (h : Offers (.endless content :: rest) bytes) :
      Offers (.endless content :: rest) (content ++ bytes)
  | retry {bytes : List UInt8} {rest : List Delivery} (h : Offers rest bytes) :
      Offers (.interrupted :: rest) bytes

/-- The script hands out exactly the bytes.  Then a read fails, or the input ends. -/
inductive EndsAfter : List Delivery → List UInt8 → Option String → Prop
  | exhausted : EndsAfter [] [] none
  | emptyRead {rest : List Delivery} : EndsAfter (.bytes [] :: rest) [] none
  | emptyCycle {rest : List Delivery} : EndsAfter (.endless [] :: rest) [] none
  | failure {message : String} {rest : List Delivery} :
      EndsAfter (.failure message :: rest) [] (some message)
  | whole {content bytes : List UInt8} {rest : List Delivery} {failure : Option String}
      (hsome : content ≠ []) (h : EndsAfter rest bytes failure) :
      EndsAfter (.bytes content :: rest) (content ++ bytes) failure
  | retry {bytes : List UInt8} {rest : List Delivery} {failure : Option String}
      (h : EndsAfter rest bytes failure) :
      EndsAfter (.interrupted :: rest) bytes failure

/-- What a reader gets that has room for some bytes: all that the script hands out if this leaves
room, and else as many bytes as there is room for. -/
inductive Arrives (room : Nat) (script : List Delivery) : List UInt8 → Option String → Prop
  | all {bytes : List UInt8} {failure : Option String} (h : EndsAfter script bytes failure)
      (hroom : bytes.length < room) :
      Arrives room script bytes failure
  | filled {bytes : List UInt8} (h : Offers script bytes) (hroom : bytes.length = room) :
      Arrives room script bytes none

/-- The scripts hand out the same bytes and stop in the same way. -/
structure SameSupply (first second : List Delivery) : Prop where
  offers_iff : ∀ bytes, Offers first bytes ↔ Offers second bytes
  endsAfter_iff : ∀ bytes failure, EndsAfter first bytes failure ↔ EndsAfter second bytes failure

variable {room : Nat} {script rest : List Delivery} {content bytes other start : List UInt8}
  {failure otherFailure : Option String}

theorem Offers.of_prefix (h : Offers script bytes) (hstart : start <+: bytes) :
    Offers script start := by
  induction h generalizing start with
  | nothing =>
      rw [List.prefix_nil.mp hstart]
      exact .nothing
  | part h => exact .part (hstart.trans h)
  | @whole content bytes _ hsome _ ih =>
      rcases List.prefix_or_prefix_of_prefix hstart (List.prefix_append content bytes) with h | h
      · exact .part h
      · obtain ⟨later, rfl⟩ := h
        exact .whole hsome (ih ((List.prefix_append_right_inj content).mp hstart))
  | cyclePart h => exact .cyclePart (hstart.trans h)
  | @cycle content bytes _ _ ih =>
      rcases List.prefix_or_prefix_of_prefix hstart (List.prefix_append content bytes) with h | h
      · exact .cyclePart h
      · obtain ⟨later, rfl⟩ := h
        exact .cycle (ih ((List.prefix_append_right_inj content).mp hstart))
  | retry _ ih => exact .retry (ih hstart)

theorem EndsAfter.offers (h : EndsAfter script bytes failure) : Offers script bytes := by
  induction h with
  | exhausted | emptyRead | emptyCycle | failure => exact .nothing
  | whole hsome _ ih => exact .whole hsome ih
  | retry _ ih => exact .retry ih

/-! ## Endless deliveries -/

theorem fillRoom_nil : ∀ room, fillRoom [] [] room = []
  | 0 => rfl
  | _ + 1 => rfl

/-- The bytes that are left of a repetition come first. -/
theorem fillRoom_append (later : Nat) :
    fillRoom content start (start.length + later) = start ++ fillRoom content [] later := by
  induction start with
  | nil => rw [List.length_nil, Nat.zero_add, List.nil_append]
  | cons byte start ih =>
      rw [List.length_cons, Nat.add_right_comm, fillRoom, ih, List.cons_append]

theorem fillRoom_eq_take (hroom : room ≤ start.length) :
    fillRoom content start room = start.take room := by
  induction start generalizing room with
  | nil =>
      obtain rfl : room = 0 := by simpa using hroom
      rfl
  | cons byte start ih =>
      cases room with
      | zero => rfl
      | succ room =>
          rw [fillRoom, ih (by simpa using hroom), List.take_succ_cons]

theorem fillRoom_restart : fillRoom content [] room = fillRoom content content room := by
  cases room <;> cases content <;> rfl

/-- Endless deliveries fill any room. -/
theorem offers_fillRoom (hsome : content ≠ []) (room : Nat) :
    Offers (.endless content :: rest) (fillRoom content [] room) ∧
      (fillRoom content [] room).length = room := by
  induction room using Nat.strongRecOn with
  | ind room ih =>
      rw [fillRoom_restart]
      rcases Nat.le_total room content.length with hroom | hroom
      · rw [fillRoom_eq_take hroom, List.length_take, Nat.min_eq_left hroom]
        exact ⟨.cyclePart (List.take_prefix room content), rfl⟩
      · obtain ⟨later, rfl⟩ := Nat.exists_eq_add_of_le hroom
        have hlength := List.length_pos_iff.mpr hsome
        obtain ⟨hoffers, hlater⟩ := ih later (by omega)
        rw [fillRoom_append, List.length_append, hlater]
        exact ⟨.cycle hoffers, rfl⟩

theorem eq_fillRoom_of_offers
    (h : Offers (.endless content :: rest) bytes) :
    fillRoom content [] bytes.length = bytes := by
  generalize hscript : Delivery.endless content :: rest = script at h
  induction h with
  | nothing => rfl
  | part | whole | retry => cases hscript
  | cyclePart h =>
      cases hscript
      rw [fillRoom_restart, fillRoom_eq_take h.length_le]
      exact (List.prefix_iff_eq_take.mp h).symm
  | cycle _ ih =>
      cases hscript
      rw [fillRoom_restart, List.length_append, fillRoom_append, ih rfl]

/-! ## What arrives is determined -/

theorem Offers.of_bytes (h : Offers (.bytes content :: rest) bytes) :
    bytes <+: content ∨
      content ≠ [] ∧ ∃ later, bytes = content ++ later ∧ Offers rest later := by
  cases h with
  | nothing => exact .inl List.nil_prefix
  | part h => exact .inl h
  | whole hsome h => exact .inr ⟨hsome, _, rfl, h⟩

theorem Offers.of_interrupted (h : Offers (.interrupted :: rest) bytes) : Offers rest bytes := by
  cases h with
  | nothing => exact .nothing
  | retry h => exact h

theorem Offers.eq_of_length (h : Offers script bytes) (hother : Offers script other)
    (hlength : other.length = bytes.length) : other = bytes := by
  induction script generalizing bytes other with
  | nil =>
      cases h
      cases hother
      rfl
  | cons delivery rest ih =>
      cases delivery with
      | bytes content =>
          -- One of the two is a beginning of the other, unless both go on after the delivery.
          rcases h.of_bytes with hpart | ⟨-, later, rfl, hlater⟩
          · rcases hother.of_bytes with hotherPart | ⟨-, otherLater, rfl, -⟩
            · have hstart := List.prefix_of_prefix_length_le hotherPart hpart hlength.le
              exact hstart.eq_of_length hlength
            · have hstart := hpart.trans (List.prefix_append content otherLater)
              exact (hstart.eq_of_length hlength.symm).symm
          · rcases hother.of_bytes with hotherPart | ⟨-, otherLater, rfl, hotherLater⟩
            · have hstart := hotherPart.trans (List.prefix_append content later)
              exact hstart.eq_of_length hlength
            · rw [ih hlater hotherLater (by simpa using hlength)]
      | endless content =>
          rw [← eq_fillRoom_of_offers h, ← eq_fillRoom_of_offers hother, hlength]
      | interrupted => exact ih h.of_interrupted hother.of_interrupted hlength
      | failure message =>
          cases h
          cases hother
          rfl

/-- A script that ends does not offer more than it hands out. -/
theorem EndsAfter.prefix_of_offers (h : EndsAfter script bytes failure)
    (hoffers : Offers script other) : other <+: bytes := by
  induction h generalizing other with
  | exhausted | failure =>
      cases hoffers
      exact List.nil_prefix
  | emptyRead =>
      rcases hoffers.of_bytes with hpart | ⟨hsome, -⟩
      · exact hpart
      · exact absurd rfl hsome
  | emptyCycle =>
      rw [← eq_fillRoom_of_offers hoffers, fillRoom_nil]
  | @whole content _ _ _ _ _ ih =>
      rcases hoffers.of_bytes with hpart | ⟨-, later, rfl, hlater⟩
      · exact hpart.trans (List.prefix_append _ _)
      · exact (List.prefix_append_right_inj content).mpr (ih hlater)
  | retry _ ih => exact ih hoffers.of_interrupted

theorem EndsAfter.unique (h : EndsAfter script bytes failure)
    (hother : EndsAfter script other otherFailure) :
    other = bytes ∧ otherFailure = failure := by
  induction h generalizing other with
  | exhausted | emptyCycle | failure =>
      cases hother
      exact ⟨rfl, rfl⟩
  | emptyRead =>
      cases hother with
      | emptyRead => exact ⟨rfl, rfl⟩
      | whole hsome _ => exact absurd rfl hsome
  | whole hsome _ ih =>
      cases hother with
      | emptyRead => exact absurd rfl hsome
      | whole _ hother =>
          obtain ⟨rfl, rfl⟩ := ih hother
          exact ⟨rfl, rfl⟩
  | retry _ ih =>
      cases hother with
      | retry hother => exact ih hother

theorem Arrives.unique (h : Arrives room script bytes failure)
    (hother : Arrives room script other otherFailure) :
    other = bytes ∧ otherFailure = failure := by
  cases h with
  | all h hroom =>
      cases hother with
      | all hother _ => exact h.unique hother
      | filled hother hfull =>
          have hlength := (h.prefix_of_offers hother).length_le
          omega
  | filled h hfull =>
      cases hother with
      | all hother hroom =>
          have hlength := (hother.prefix_of_offers h).length_le
          omega
      | filled hother hotherFull =>
          exact ⟨h.eq_of_length hother (hotherFull.trans hfull.symm), rfl⟩

/-! ## Reading -/

section

variable (hroom : 0 < room)

theorem drain_zero : drain 0 script = ⟨[], none, [], script⟩ := by
  unfold drain
  rfl

include hroom

theorem drain_nil : drain room [] = ⟨[], none, [.read 0], []⟩ := by
  unfold drain
  rw [if_neg hroom.ne']

theorem drain_emptyRead : drain room (.bytes [] :: rest) = ⟨[], none, [.read 0], rest⟩ := by
  unfold drain
  rw [if_neg hroom.ne']
  rfl

theorem drain_whole (hsome : content ≠ []) (hfits : content.length ≤ room) :
    drain room (.bytes content :: rest) =
      (drain (room - content.length) rest).after content := by
  rw [drain, if_neg hroom.ne']
  simp [hsome, hfits]

theorem drain_part (hcut : room < content.length) :
    drain room (.bytes content :: rest) =
      ⟨content.take room, none, [.read room], .bytes (content.drop room) :: rest⟩ := by
  have hsome : content ≠ [] := List.length_pos_iff.mp (hroom.trans hcut)
  rw [drain, if_neg hroom.ne']
  simp [hsome, hcut.not_ge]

theorem drain_endless :
    drain room (.endless content :: rest) =
      ⟨fillRoom content [] room, none, [.read (fillRoom content [] room).length],
        .endless content :: rest⟩ := by
  rw [drain, if_neg hroom.ne']

theorem drain_retry : drain room (.interrupted :: rest) = (drain room rest).after [] := by
  rw [drain, if_neg hroom.ne']

theorem drain_failure {message : String} :
    drain room (.failure message :: rest) = ⟨[], some message, [.read 0], rest⟩ := by
  rw [drain, if_neg hroom.ne']

end

theorem Arrives.length_le (h : Arrives room script bytes failure) : bytes.length ≤ room := by
  cases h with
  | all _ hroom => exact hroom.le
  | filled _ hroom => exact hroom.le

theorem Arrives.retry (h : Arrives room rest bytes failure) :
    Arrives room (.interrupted :: rest) bytes failure := by
  cases h with
  | all h hroom => exact .all (.retry h) hroom
  | filled h hroom => exact .filled (.retry h) hroom

theorem Arrives.whole {later : Nat} (hsome : content ≠ [])
    (h : Arrives later rest bytes failure) :
    Arrives (content.length + later) (.bytes content :: rest) (content ++ bytes) failure := by
  cases h with
  | all h hroom => exact .all (.whole hsome h) (by simpa using hroom)
  | filled h hroom => exact .filled (.whole hsome h) (by simpa using hroom)

/-- A reader gets what arrives. -/
theorem drain_arrives (room : Nat) (script : List Delivery) :
    Arrives room script (drain room script).bytes (drain room script).failure := by
  induction script generalizing room with
  | nil =>
      rcases Nat.eq_zero_or_pos room with rfl | hroom
      · rw [drain_zero]
        exact .filled .nothing rfl
      · rw [drain_nil hroom]
        exact .all .exhausted hroom
  | cons delivery rest ih =>
      rcases Nat.eq_zero_or_pos room with rfl | hroom
      · rw [drain_zero]
        exact .filled .nothing rfl
      cases delivery with
      | bytes content =>
          rcases eq_or_ne content [] with rfl | hsome
          · rw [drain_emptyRead hroom]
            exact .all .emptyRead hroom
          rcases Nat.lt_or_ge room content.length with hcut | hfits
          · rw [drain_part hroom hcut]
            exact .filled (.part (List.take_prefix room content)) (List.length_take_of_le hcut.le)
          · rw [drain_whole hroom hsome hfits]
            obtain ⟨later, rfl⟩ := Nat.exists_eq_add_of_le hfits
            rw [Nat.add_sub_cancel_left]
            exact (ih later).whole hsome
      | endless content =>
          rw [drain_endless hroom]
          rcases eq_or_ne content [] with rfl | hsome
          · rw [fillRoom_nil]
            exact .all .emptyCycle hroom
          · obtain ⟨hoffers, hlength⟩ := offers_fillRoom hsome room
            exact .filled hoffers hlength
      | interrupted =>
          rw [drain_retry hroom]
          exact (ih room).retry
      | failure message =>
          rw [drain_failure hroom]
          exact .all .failure hroom

theorem exists_arrives (room : Nat) (script : List Delivery) :
    ∃ bytes failure, Arrives room script bytes failure :=
  ⟨_, _, drain_arrives room script⟩

/-- More bytes than a limit arrive where there is room for one more than the limit. -/
theorem exists_arrives_above_iff {limit : Nat} :
    (∃ bytes, Arrives (limit + 1) script bytes none ∧ limit < bytes.length) ↔
      ∃ bytes, Offers script bytes ∧ limit < bytes.length := by
  constructor
  · rintro ⟨bytes, ⟨h, -⟩ | ⟨h, -⟩, hlimit⟩
    · exact ⟨bytes, h.offers, hlimit⟩
    · exact ⟨bytes, h, hlimit⟩
  · rintro ⟨bytes, h, hlimit⟩
    have hlength := List.length_take_of_le (Nat.succ_le_of_lt hlimit)
    exact ⟨bytes.take (limit + 1), .filled (h.of_prefix (List.take_prefix _ _)) hlength,
      hlength ▸ Nat.lt_succ_self limit⟩

theorem arrives_failure_iff {limit : Nat} {message : String} :
    Arrives (limit + 1) script bytes (some message) ↔
      EndsAfter script bytes (some message) ∧ bytes.length ≤ limit := by
  constructor
  · rintro ⟨h, hroom⟩
    exact ⟨h, Nat.le_of_lt_succ hroom⟩
  · rintro ⟨h, hlimit⟩
    exact .all h (Nat.lt_succ_of_le hlimit)

/-- A reader gets nothing but what arrives. -/
theorem Arrives.drain_eq (h : Arrives room script bytes failure) :
    (drain room script).bytes = bytes ∧ (drain room script).failure = failure :=
  h.unique (drain_arrives room script)

/-- A reader calls for nothing but bytes, and counts those that it gets. -/
theorem drain_calls (room : Nat) (script : List Delivery) :
    .close ∉ (drain room script).calls ∧
      ((drain room script).calls.map SourceCall.served).sum =
        (drain room script).bytes.length := by
  induction script generalizing room with
  | nil =>
      rcases Nat.eq_zero_or_pos room with rfl | hroom
      · simp [drain_zero]
      · simp [drain_nil hroom, SourceCall.served]
  | cons delivery rest ih =>
      rcases Nat.eq_zero_or_pos room with rfl | hroom
      · simp [drain_zero]
      cases delivery with
      | bytes content =>
          rcases eq_or_ne content [] with rfl | hsome
          · simp [drain_emptyRead hroom, SourceCall.served]
          rcases Nat.lt_or_ge room content.length with hcut | hfits
          · simp [drain_part hroom hcut, SourceCall.served, hcut.le]
          · obtain ⟨hclose, hserved⟩ := ih (room - content.length)
            simp [drain_whole hroom hsome hfits, Drained.after, SourceCall.served, hclose, hserved]
      | endless content => simp [drain_endless hroom, SourceCall.served]
      | interrupted =>
          obtain ⟨hclose, hserved⟩ := ih room
          simp [drain_retry hroom, Drained.after, SourceCall.served, hclose, hserved]
      | failure message => simp [drain_failure hroom, SourceCall.served]

/-! ## The same supply in other deliveries -/

theorem SameSupply.refl (script : List Delivery) : SameSupply script script :=
  ⟨fun _ => .rfl, fun _ _ => .rfl⟩

theorem SameSupply.arrives_iff {first second : List Delivery} (h : SameSupply first second) :
    Arrives room first bytes failure ↔ Arrives room second bytes failure := by
  constructor
  · rintro (⟨hends, hroom⟩ | ⟨hoffers, hroom⟩)
    · exact .all ((h.endsAfter_iff _ _).mp hends) hroom
    · exact .filled ((h.offers_iff _).mp hoffers) hroom
  · rintro (⟨hends, hroom⟩ | ⟨hoffers, hroom⟩)
    · exact .all ((h.endsAfter_iff _ _).mpr hends) hroom
    · exact .filled ((h.offers_iff _).mpr hoffers) hroom

theorem endsAfter_bytes (bytes : List UInt8) : EndsAfter [.bytes bytes] bytes none := by
  rcases eq_or_ne bytes [] with rfl | hsome
  · exact .emptyRead
  · simpa using EndsAfter.whole hsome .exhausted

/-- Two scripts that end after the same bytes look the same to every reader. -/
theorem exists_arrives_of_endsAfter {first second : List Delivery}
    (hfirst : EndsAfter first bytes failure) (hsecond : EndsAfter second bytes failure)
    (room : Nat) :
    ∃ found failure, Arrives room first found failure ∧ Arrives room second found failure := by
  rcases Nat.lt_or_ge bytes.length room with hroom | hroom
  · exact ⟨bytes, failure, .all hfirst hroom, .all hsecond hroom⟩
  · have hstart := List.take_prefix room bytes
    have hlength := List.length_take_of_le hroom
    exact ⟨bytes.take room, none, .filled (hfirst.offers.of_prefix hstart) hlength,
      .filled (hsecond.offers.of_prefix hstart) hlength⟩

/-! ## Scripts without an end -/

/-- A reader does not get beyond the script: whatever comes after it makes no difference. -/
def Settles (room : Nat) (script : List Delivery) : Prop :=
  ∃ bytes failure calls, ∀ later, ∃ left,
    drain room (script ++ later) = ⟨bytes, failure, calls, left⟩

theorem settles_zero (script : List Delivery) : Settles 0 script :=
  ⟨[], none, [], fun _ => ⟨_, drain_zero⟩⟩

theorem settles_emptyRead (hroom : 0 < room) : Settles room (.bytes [] :: rest) :=
  ⟨[], none, [.read 0], fun _ => ⟨_, drain_emptyRead hroom⟩⟩

theorem settles_part (hroom : 0 < room) (hcut : room < content.length) :
    Settles room (.bytes content :: rest) :=
  ⟨content.take room, none, [.read room], fun _ => ⟨_, drain_part hroom hcut⟩⟩

theorem settles_endless (hroom : 0 < room) : Settles room (.endless content :: rest) :=
  ⟨_, none, _, fun _ => ⟨_, drain_endless hroom⟩⟩

theorem settles_failure (hroom : 0 < room) {message : String} :
    Settles room (.failure message :: rest) :=
  ⟨[], some message, [.read 0], fun _ => ⟨_, drain_failure hroom⟩⟩

theorem Settles.whole (hroom : 0 < room) (hsome : content ≠ []) (hfits : content.length ≤ room)
    (h : Settles (room - content.length) rest) :
    Settles room (.bytes content :: rest) := by
  obtain ⟨bytes, failure, calls, hrest⟩ := h
  refine ⟨content ++ bytes, failure, .read content.length :: calls, fun later => ?_⟩
  obtain ⟨left, hleft⟩ := hrest later
  exact ⟨left, by rw [List.cons_append, drain_whole hroom hsome hfits, hleft, Drained.after]⟩

theorem Settles.retry (hroom : 0 < room) (h : Settles room rest) :
    Settles room (.interrupted :: rest) := by
  obtain ⟨bytes, failure, calls, hrest⟩ := h
  refine ⟨bytes, failure, .read 0 :: calls, fun later => ?_⟩
  obtain ⟨left, hleft⟩ := hrest later
  exact ⟨left, by rw [List.cons_append, drain_retry hroom, hleft]; rfl⟩

/-- The first deliveries of a script without an end. -/
def firstDeliveries (deliveries : Nat → Delivery) (count : Nat) : List Delivery :=
  (List.range count).map deliveries

theorem firstDeliveries_succ (deliveries : Nat → Delivery) (count : Nat) :
    firstDeliveries deliveries (count + 1) =
      deliveries 0 :: firstDeliveries (fun place => deliveries (place + 1)) count := by
  rw [firstDeliveries, List.range_succ_eq_map, List.map_cons, List.map_map]
  rfl

theorem exists_settles_of_first {deliveries : Nat → Delivery} (hroom : 0 < room)
    (hfirst : deliveries 0 ≠ .interrupted)
    (hrest : ∀ smaller < room, ∃ count,
      Settles smaller (firstDeliveries (fun place => deliveries (place + 1)) count)) :
    ∃ count, Settles room (firstDeliveries deliveries count) := by
  have hone : firstDeliveries deliveries 1 = [deliveries 0] := rfl
  cases hdelivery : deliveries 0 with
  | bytes content =>
      rw [hdelivery] at hone
      rcases eq_or_ne content [] with rfl | hsome
      · exact ⟨1, hone ▸ settles_emptyRead hroom⟩
      rcases Nat.lt_or_ge room content.length with hcut | hfits
      · exact ⟨1, hone ▸ settles_part hroom hcut⟩
      · have hlength := List.length_pos_iff.mpr hsome
        obtain ⟨count, hcount⟩ := hrest (room - content.length) (by omega)
        refine ⟨count + 1, ?_⟩
        rw [firstDeliveries_succ, hdelivery]
        exact hcount.whole hroom hsome hfits
  | endless content =>
      rw [hdelivery] at hone
      exact ⟨1, hone ▸ settles_endless hroom⟩
  | interrupted => exact absurd hdelivery hfirst
  | failure message =>
      rw [hdelivery] at hone
      exact ⟨1, hone ▸ settles_failure hroom⟩

/-- Of a script without an end that does not only ask to try again, a reader sees a beginning. -/
theorem exists_settles {deliveries : Nat → Delivery}
    (hgoesOn : ∀ count, ∃ place ≥ count, deliveries place ≠ .interrupted) (room : Nat) :
    ∃ count, Settles room (firstDeliveries deliveries count) := by
  induction room using Nat.strongRecOn generalizing deliveries with
  | ind room ih =>
      rcases Nat.eq_zero_or_pos room with rfl | hroom
      · exact ⟨0, settles_zero _⟩
      have hshifted : ∀ {deliveries : Nat → Delivery},
          (∀ count, ∃ place ≥ count, deliveries place ≠ .interrupted) →
            ∀ count, ∃ place ≥ count, deliveries (place + 1) ≠ .interrupted := by
        intro deliveries hgoesOn count
        obtain ⟨place, hplace, hdelivery⟩ := hgoesOn (count + 1)
        obtain ⟨place, rfl⟩ := Nat.exists_eq_add_of_le' (Nat.zero_lt_of_lt hplace)
        exact ⟨place, Nat.le_of_succ_le_succ hplace, hdelivery⟩
      -- The room stays as it is until the first delivery that is more than an interruption.
      obtain ⟨place, -, hplace⟩ := hgoesOn 0
      induction place generalizing deliveries with
      | zero =>
          exact exists_settles_of_first hroom hplace fun smaller hsmaller =>
            ih smaller hsmaller (hshifted hgoesOn)
      | succ place ihplace =>
          by_cases hfirst : deliveries 0 = .interrupted
          · obtain ⟨count, hcount⟩ := ihplace (hshifted hgoesOn) hplace
            refine ⟨count + 1, ?_⟩
            rw [firstDeliveries_succ, hfirst]
            exact hcount.retry hroom
          · exact exists_settles_of_first hroom hfirst fun smaller hsmaller =>
              ih smaller hsmaller (hshifted hgoesOn)

end RecordExtraction
