import Cantilune.Runtime.LockTables
import Mathlib.Algebra.Order.Ring.Rat
import Mathlib.Data.Nat.Cast.Order.Ring

/-!
# The table on the wire

What a table on the wire does from one call to the next, JSON included, and how it compares with the array in
memory: after the same calls both hold the same unexpired entries, as long as JSON carries every expiry.
-/

namespace Cantilune

def runTable {S : Type} (call : S → TimedCall → LockResult × S) (s : S) : List TimedCall → List LockResult × S
  | [] => ([], s)
  | c :: cs =>
      let rest := runTable call (call s c).2 cs
      ((call s c).1 :: rest.1, rest.2)

theorem runTable_snoc {S : Type} (call : S → TimedCall → LockResult × S) (s : S) (cs : List TimedCall)
    (c : TimedCall) : runTable call s (cs ++ [c]) =
      ((runTable call s cs).1 ++ [(call (runTable call s cs).2 c).1], (call (runTable call s cs).2 c).2) := by
  induction cs generalizing s with
  | nil => rfl
  | cons c' cs ih => simp [runTable, ih]

theorem runTable_invariant {S : Type} {call : S → TimedCall → LockResult × S} {I : S → Prop}
    (hcall : ∀ s c, I s → I (call s c).2) {s : S} (hs : I s) (cs : List TimedCall) : I (runTable call s cs).2 := by
  induction cs generalizing s with
  | nil => exact hs
  | cons c cs ih => exact ih (hcall s c hs)

/-! ## What JSON makes of an entry -/

def WireNumber.image : WireNumber → WireNumber
  | .number (.finite q) => .number (.finite q)
  | _ => .null

namespace LockWire

def image (entry : LockEntryWire) : LockEntryWire :=
  { entry with expiresAt := entry.expiresAt.map WireNumber.image }

theorem readStrings_stringsToJson (ids : List String) : readStrings (some (stringsToJson ids)) = some ids := by
  unfold readStrings stringsToJson
  induction ids with
  | nil => rfl
  | cons id ids ih =>
      simp only [List.map_cons, List.mapM_cons] at ih ⊢
      rw [ih]
      rfl

theorem readFootprint_footprintToJson (footprint : Footprint) :
    readFootprint (footprintToJson footprint) = some footprint := by
  simp [readFootprint, footprintToJson, readStrings_stringsToJson]

theorem readNumber_numberToJson (n : WireNumber) : readNumber (numberToJson n) = some n.image := by
  cases n with
  | null => rfl
  | number n => cases n <;> rfl

theorem readEntry_entryToJson (entry : LockEntryWire) : readEntry (entryToJson entry) = some (image entry) := by
  obtain ⟨admittedId, footprint, expiresAt⟩ := entry
  cases expiresAt with
  | none => simp [readEntry, entryToJson, readFootprint_footprintToJson, readExpiresAt, image, Json.str?]
  | some n =>
      simp [readEntry, entryToJson, readFootprint_footprintToJson, readExpiresAt, readNumber_numberToJson, image,
        Json.str?]

theorem mapM_readEntry (locks : List LockEntryWire) :
    (locks.map entryToJson).mapM readEntry = some (locks.map image) := by
  induction locks with
  | nil => rfl
  | cons entry locks ih =>
      rw [List.map_cons, List.mapM_cons, ih, readEntry_entryToJson]
      rfl

theorem decodeLocks_encodeLocks (locks : List LockEntryWire) :
    decodeLocks (some (encodeLocks locks)) = some (locks.map image) := by
  have hlocks : (encodeLocks locks).get? "locks" = some (.arr (locks.map entryToJson)) := by
    simp [encodeLocks]
  rw [← mapM_readEntry]
  rfl

def call (locks : List LockEntryWire) (c : TimedCall) : LockResult × List LockEntryWire :=
  ((work (releaseExpired c.clock.checked locks) c).1,
    (work (releaseExpired c.clock.checked locks) c).2.map image)

end LockWire

/-! ## Overlaps -/

def FootprintsApart (a b : Footprint) : Prop := footprintsOverlap a b = false

theorem pairwise_snoc {fs : List Footprint} {f : Footprint} (hfs : fs.Pairwise FootprintsApart)
    (hf : fs.any (fun g => footprintsOverlap g f) = false) : (fs ++ [f]).Pairwise FootprintsApart := by
  rw [List.pairwise_append]
  refine ⟨hfs, List.pairwise_singleton _ _, fun g hg f' hf' => ?_⟩
  rw [List.mem_singleton.1 hf']
  rw [List.any_eq_false] at hf
  simpa [FootprintsApart] using hf g hg

namespace MemoryResourceLockTable

def Exclusive (locks : List LockEntry) : Prop := (locks.map (·.footprint)).Pairwise FootprintsApart

theorem exclusive_nil : Exclusive [] := List.Pairwise.nil

theorem exclusive_sublist {locks locks' : List LockEntry} (h : Exclusive locks') (hsub : locks.Sublist locks') :
    Exclusive locks := List.Pairwise.sublist (hsub.map _) h

theorem exclusive_call {locks : List LockEntry} (c : TimedCall) (h : Exclusive locks) :
    Exclusive (call locks c).2 := by
  obtain ⟨c, clock⟩ := c
  have hlive : Exclusive (releaseExpired clock.checked locks) := exclusive_sublist h List.filter_sublist
  cases c with
  | acquire admittedId footprint leaseMs =>
      by_cases hover : (releaseExpired clock.checked locks).any
          (fun existing => footprintsOverlap existing.footprint footprint) = true
      · simp only [call, acquire, hover, if_true]
        exact hlive
      · simp only [call, acquire, hover]
        simp only [Bool.not_eq_true] at hover
        have hfree : ((releaseExpired clock.checked locks).map (·.footprint)).any
            (fun g => footprintsOverlap g footprint) = false := by
          rw [List.any_map]
          exact hover
        simpa [Exclusive] using pairwise_snoc hlive hfree
  | release admittedId => exact exclusive_sublist h List.eraseP_sublist
  | isHeld admittedId => exact hlive
  | heldLockCount => exact hlive

end MemoryResourceLockTable

namespace LockWire

def Exclusive (locks : List LockEntryWire) : Prop := (locks.map (·.footprint)).Pairwise FootprintsApart

theorem exclusive_nil : Exclusive [] := List.Pairwise.nil

theorem exclusive_sublist {locks locks' : List LockEntryWire} (h : Exclusive locks')
    (hsub : locks.Sublist locks') : Exclusive locks := List.Pairwise.sublist (hsub.map _) h

theorem exclusive_image {locks : List LockEntryWire} (h : Exclusive locks) : Exclusive (locks.map image) := by
  have hmap : (locks.map image).map (·.footprint) = locks.map (·.footprint) := by
    simp [image, Function.comp_def]
  rw [Exclusive, hmap]
  exact h

theorem exclusive_work {locks : List LockEntryWire} (c : TimedCall) (h : Exclusive locks) :
    Exclusive (work locks c).2 := by
  obtain ⟨c, clock⟩ := c
  cases c with
  | acquire admittedId footprint leaseMs =>
      by_cases hover : locks.any (fun existing => footprintsOverlap existing.footprint footprint) = true
      · simp only [work, hover, if_true]
        exact h
      · simp only [work, hover]
        simp only [Bool.not_eq_true] at hover
        have hfree : (locks.map (·.footprint)).any (fun g => footprintsOverlap g footprint) = false := by
          rw [List.any_map]
          exact hover
        simpa [Exclusive] using pairwise_snoc h hfree
  | release admittedId => exact exclusive_sublist h List.filter_sublist
  | isHeld admittedId => exact h
  | heldLockCount => exact h

theorem exclusive_call {locks : List LockEntryWire} (c : TimedCall) (h : Exclusive locks) :
    Exclusive (call locks c).2 :=
  exclusive_image (exclusive_work c (exclusive_sublist h List.filter_sublist))

end LockWire

/-! ## Entries that have not expired -/

def JsNumber.Carried (n : JsNumber) : Prop := n ≠ .nan ∧ n ≠ .infinity false

instance (n : JsNumber) : Decidable n.Carried := inferInstanceAs (Decidable (_ ∧ _))

def LockEntry.Carried (entry : LockEntry) : Prop := ∀ n ∈ entry.expiresAt, n.Carried

def LockEntry.wire (entry : LockEntry) : LockEntryWire :=
  { admittedId := entry.admittedId, footprint := entry.footprint
    expiresAt := entry.expiresAt.map fun n => WireNumber.image (.number n) }

theorem JsNumber.Carried.after {n : JsNumber} (h : n.Carried) (now : Nat) : (n.after now).Carried := by
  obtain ⟨hnan, hinf⟩ := h
  cases n with
  | finite q => exact ⟨by simp [JsNumber.after], by simp [JsNumber.after]⟩
  | nan => exact absurd rfl hnan
  | infinity negative => exact ⟨by simp [JsNumber.after], by simpa [JsNumber.after] using hinf⟩

theorem image_greater {n : JsNumber} (h : n.Carried) (now : Nat) :
    (WireNumber.image (.number n)).greater now = !n.atMost now := by
  obtain ⟨hnan, hinf⟩ := h
  cases n with
  | finite q =>
      simp only [WireNumber.image, WireNumber.greater, JsNumber.greater, JsNumber.atMost]
      rw [← decide_not, decide_eq_decide, not_le]
  | nan => exact absurd rfl hnan
  | infinity negative =>
      cases negative with
      | true => rfl
      | false => exact absurd rfl hinf

@[simp] theorem WireNumber.image_image (n : WireNumber) : n.image.image = n.image := by
  cases n with
  | null => rfl
  | number n => cases n <;> rfl

@[simp] theorem LockEntry.image_wire (entry : LockEntry) : LockWire.image entry.wire = entry.wire := by
  simp [LockWire.image, LockEntry.wire, Function.comp_def]

theorem atMost_mono {n : JsNumber} {now later : Nat} (hle : now ≤ later) (h : n.atMost now = true) :
    n.atMost later = true := by
  cases n with
  | finite q =>
      have hq : q ≤ (now : ℚ) := by simpa [JsNumber.atMost] using h
      have hnow : (now : ℚ) ≤ (later : ℚ) := by exact_mod_cast hle
      simpa [JsNumber.atMost] using hq.trans hnow
  | nan => exact h
  | infinity negative => exact h

theorem releaseExpired_releaseExpired {now later : Nat} (hle : now ≤ later) (locks : List LockEntry) :
    MemoryResourceLockTable.releaseExpired later (MemoryResourceLockTable.releaseExpired now locks) =
      MemoryResourceLockTable.releaseExpired later locks := by
  unfold MemoryResourceLockTable.releaseExpired
  rw [List.filter_filter]
  refine List.filter_congr fun entry _ => ?_
  cases hexp : entry.expiresAt with
  | none => rfl
  | some n =>
      cases hat : n.atMost now with
      | false => simp [hat]
      | true => simp [hat, atMost_mono hle hat]

theorem releaseExpired_wire {locks : List LockEntry} (h : ∀ entry ∈ locks, entry.Carried) (now : Nat) :
    (MemoryResourceLockTable.releaseExpired now locks).map LockEntry.wire =
      LockWire.releaseExpired now (locks.map LockEntry.wire) := by
  unfold MemoryResourceLockTable.releaseExpired LockWire.releaseExpired
  rw [List.filter_map]
  congr 1
  refine List.filter_congr fun entry hentry => ?_
  have hcarried := h entry hentry
  obtain ⟨admittedId, footprint, expiresAt⟩ := entry
  cases expiresAt with
  | none => rfl
  | some n => simp [LockEntry.wire, image_greater (hcarried n rfl)]

/-! ## The same calls -/

/-- The unexpired entries are the same in both tables; the array in memory may still hold expired ones. -/
structure Agree (now : Nat) (locks : List LockEntry) (wires : List LockEntryWire) : Prop where
  carried : ∀ entry ∈ locks, entry.Carried
  distinct : (locks.map (·.admittedId)).Nodup
  live : (MemoryResourceLockTable.releaseExpired now locks).map LockEntry.wire = LockWire.releaseExpired now wires

theorem wireReleaseExpired_releaseExpired {now later : Nat} (hle : now ≤ later) (wires : List LockEntryWire) :
    LockWire.releaseExpired later (LockWire.releaseExpired now wires) = LockWire.releaseExpired later wires := by
  unfold LockWire.releaseExpired
  rw [List.filter_filter]
  refine List.filter_congr fun entry _ => ?_
  cases entry.expiresAt with
  | none => rfl
  | some n =>
      have hmono : n.greater later = true → n.greater now = true := by
        cases n with
        | null => exact id
        | number n =>
            cases n with
            | finite q =>
                intro h
                have hq : (later : ℚ) < q := by simpa [WireNumber.greater, JsNumber.greater] using h
                have hnow : (now : ℚ) ≤ (later : ℚ) := by exact_mod_cast hle
                simpa [WireNumber.greater, JsNumber.greater] using hnow.trans_lt hq
            | nan => exact id
            | infinity negative => exact id
      cases hl : n.greater later with
      | false => simp [hl]
      | true => simp [hl, hmono hl]

theorem Agree.later {now later : Nat} {locks : List LockEntry} {wires : List LockEntryWire}
    (h : Agree now locks wires) (hle : now ≤ later) : Agree later locks wires := by
  refine ⟨h.carried, h.distinct, ?_⟩
  have hcarried : ∀ entry ∈ MemoryResourceLockTable.releaseExpired now locks, entry.Carried := fun entry he =>
    h.carried entry (List.mem_of_mem_filter he)
  rw [← releaseExpired_releaseExpired hle, releaseExpired_wire hcarried, h.live,
    wireReleaseExpired_releaseExpired hle]

theorem agree_wire {now : Nat} {locks : List LockEntry} (hcarried : ∀ entry ∈ locks, entry.Carried)
    (hdistinct : (locks.map (·.admittedId)).Nodup) : Agree now locks (locks.map LockEntry.wire) :=
  ⟨hcarried, hdistinct, releaseExpired_wire hcarried now⟩

def LockCall.acquired : LockCall → Option AdmittedId
  | .acquire admittedId _ _ => some admittedId
  | _ => none

def LockCall.LeaseCarried : LockCall → Prop
  | .acquire _ _ (some leaseMs) => leaseMs.Carried
  | _ => True

instance (c : LockCall) : Decidable c.LeaseCarried :=
  match c with
  | .acquire _ _ (some leaseMs) => inferInstanceAs (Decidable leaseMs.Carried)
  | .acquire _ _ none | .release _ | .isHeld _ | .heldLockCount => .isTrue trivial

theorem releaseExpired_eraseP {locks : List LockEntry} (h : (locks.map (·.admittedId)).Nodup)
    (admittedId : AdmittedId) (now : Nat) :
    MemoryResourceLockTable.releaseExpired now (MemoryResourceLockTable.release locks admittedId) =
      (MemoryResourceLockTable.releaseExpired now locks).filter fun entry => entry.admittedId ≠ admittedId := by
  have herase : MemoryResourceLockTable.release locks admittedId =
      locks.filter fun entry => entry.admittedId ≠ admittedId := by
    unfold MemoryResourceLockTable.release
    induction locks with
    | nil => rfl
    | cons entry locks ih =>
        rw [List.map_cons, List.nodup_cons] at h
        by_cases hid : entry.admittedId = admittedId
        · have hrest : ∀ e ∈ locks, e.admittedId ≠ admittedId := fun e he heq =>
            h.1 (List.mem_map.2 ⟨e, he, heq.trans hid.symm⟩)
          rw [List.eraseP_cons_of_pos (by simpa using hid), List.filter_cons_of_neg (by simpa using hid)]
          exact (List.filter_eq_self.2 fun e he => by simpa using hrest e he).symm
        · rw [List.eraseP_cons_of_neg (by simpa using hid), List.filter_cons_of_pos (by simpa using hid), ih h.2]
  rw [herase]
  unfold MemoryResourceLockTable.releaseExpired
  rw [List.filter_filter, List.filter_filter]
  exact List.filter_congr fun _ _ => Bool.and_comm _ _

theorem agree_call {locks : List LockEntry} {wires : List LockEntryWire} {c : TimedCall}
    (h : Agree c.clock.checked locks wires) (hlease : c.call.LeaseCarried)
    (hfresh : ∀ admittedId ∈ c.call.acquired, admittedId ∉ locks.map (·.admittedId)) :
    (MemoryResourceLockTable.call locks c).1 = (LockWire.call wires c).1 ∧
      Agree c.clock.checked (MemoryResourceLockTable.call locks c).2 (LockWire.call wires c).2 := by
  obtain ⟨c, clock⟩ := c
  have hsub : (MemoryResourceLockTable.releaseExpired clock.checked locks).Sublist locks := List.filter_sublist
  have hcarried : ∀ entry ∈ MemoryResourceLockTable.releaseExpired clock.checked locks, entry.Carried :=
    fun entry he => h.carried entry (hsub.subset he)
  have hdistinct := h.distinct.sublist (hsub.map (·.admittedId))
  have hself : Agree clock.checked (MemoryResourceLockTable.releaseExpired clock.checked locks)
      ((MemoryResourceLockTable.releaseExpired clock.checked locks).map LockEntry.wire) :=
    agree_wire hcarried hdistinct
  have himage : ∀ entries : List LockEntry, (entries.map LockEntry.wire).map LockWire.image =
      entries.map LockEntry.wire := fun entries => by
    simp [Function.comp_def]
  cases c with
  | acquire admittedId footprint leaseMs =>
      have hover : (LockWire.releaseExpired clock.checked wires).any
          (fun existing => footprintsOverlap existing.footprint footprint) =
          (MemoryResourceLockTable.releaseExpired clock.checked locks).any
            fun existing => footprintsOverlap existing.footprint footprint := by
        rw [← h.live, List.any_map]
        rfl
      cases hany : (MemoryResourceLockTable.releaseExpired clock.checked locks).any
          fun existing => footprintsOverlap existing.footprint footprint with
      | true =>
          simp only [MemoryResourceLockTable.call, MemoryResourceLockTable.acquire, LockWire.call, LockWire.work,
            hover, hany, if_true]
          refine ⟨rfl, ?_⟩
          rw [← h.live, himage]
          exact hself
      | false =>
          simp only [MemoryResourceLockTable.call, MemoryResourceLockTable.acquire, LockWire.call, LockWire.work,
            hover, hany, Bool.false_eq_true, if_false]
          refine ⟨rfl, ?_⟩
          have hnew : LockEntry.Carried ⟨admittedId, footprint, leaseMs.map (·.after clock.stamped)⟩ := by
            intro n hn
            obtain ⟨m, rfl, rfl⟩ := Option.map_eq_some_iff.1 hn
            exact JsNumber.Carried.after hlease clock.stamped
          have hnext := @agree_wire clock.checked
            (MemoryResourceLockTable.releaseExpired clock.checked locks ++
              [⟨admittedId, footprint, leaseMs.map (·.after clock.stamped)⟩])
            (fun entry he => by
              rcases List.mem_append.1 he with he | he
              · exact hcarried entry he
              · rw [List.mem_singleton.1 he]
                exact hnew)
            (by
              rw [List.map_append, List.nodup_append]
              refine ⟨hdistinct, List.nodup_singleton _, fun i hi j hj => ?_⟩
              rw [List.mem_singleton.1 hj]
              rintro rfl
              exact hfresh _ rfl ((hsub.map (·.admittedId)).subset hi))
          rw [← h.live, List.map_append, himage]
          have hwire : LockWire.image
              ⟨admittedId, footprint, leaseMs.map fun n => .number (n.after clock.stamped)⟩ =
              LockEntry.wire ⟨admittedId, footprint, leaseMs.map (·.after clock.stamped)⟩ := by
            simp [LockWire.image, LockEntry.wire, Function.comp_def]
          rw [List.map_append] at hnext
          simpa [hwire] using hnext
  | release admittedId =>
      refine ⟨rfl, ?_⟩
      have hkept : (MemoryResourceLockTable.release locks admittedId).Sublist locks := List.eraseP_sublist
      refine ⟨fun entry he => h.carried entry (hkept.subset he), h.distinct.sublist (hkept.map _), ?_⟩
      have hfilter : (LockWire.releaseExpired clock.checked wires).filter
          (fun entry => entry.admittedId ≠ admittedId) =
          ((MemoryResourceLockTable.releaseExpired clock.checked locks).filter
            fun entry => entry.admittedId ≠ admittedId).map LockEntry.wire := by
        rw [← h.live, List.filter_map]
        rfl
      simp only [MemoryResourceLockTable.call, LockWire.call, LockWire.work]
      rw [hfilter, himage, releaseExpired_eraseP h.distinct,
        ← releaseExpired_wire fun entry he => hcarried entry (List.mem_of_mem_filter he),
        ← releaseExpired_eraseP h.distinct, releaseExpired_releaseExpired le_rfl]
  | isHeld admittedId =>
      simp only [MemoryResourceLockTable.call, MemoryResourceLockTable.isHeld, LockWire.call, LockWire.work]
      rw [← h.live, List.any_map, himage]
      exact ⟨rfl, hself⟩
  | heldLockCount =>
      simp only [MemoryResourceLockTable.call, MemoryResourceLockTable.heldLockCount, LockWire.call, LockWire.work]
      rw [← h.live, List.length_map, himage]
      exact ⟨rfl, hself⟩

/-! ## The same runs -/

def ClockOrdered (now : Nat) : List TimedCall → Prop
  | [] => True
  | c :: cs => now ≤ c.clock.checked ∧ c.clock.checked ≤ c.clock.stamped ∧ ClockOrdered c.clock.stamped cs

instance (now : Nat) (cs : List TimedCall) : Decidable (ClockOrdered now cs) := by
  induction cs generalizing now with
  | nil => exact .isTrue trivial
  | cons c cs ih =>
      have := ih c.clock.stamped
      exact inferInstanceAs (Decidable (_ ∧ _ ∧ _))

def DistinctAcquires (cs : List TimedCall) : Prop := (cs.filterMap fun c => c.call.acquired).Nodup

def LeasesCarried (cs : List TimedCall) : Prop := ∀ c ∈ cs, c.call.LeaseCarried

instance (cs : List TimedCall) : Decidable (DistinctAcquires cs) := inferInstanceAs (Decidable (List.Nodup _))

instance (cs : List TimedCall) : Decidable (LeasesCarried cs) := inferInstanceAs (Decidable (∀ c ∈ cs, _))

theorem call_admittedIds (locks : List LockEntry) (c : TimedCall) :
    ∀ i ∈ (MemoryResourceLockTable.call locks c).2.map (·.admittedId),
      i ∈ locks.map (·.admittedId) ∨ c.call.acquired = some i := by
  obtain ⟨c, clock⟩ := c
  have hlive : ∀ i ∈ (MemoryResourceLockTable.releaseExpired clock.checked locks).map (·.admittedId),
      i ∈ locks.map (·.admittedId) := fun i hi => (List.filter_sublist.map _).subset hi
  cases c with
  | acquire admittedId footprint leaseMs =>
      intro i hi
      simp only [MemoryResourceLockTable.call, MemoryResourceLockTable.acquire] at hi
      split at hi
      · exact .inl (hlive i hi)
      · have happ : i ∈ (MemoryResourceLockTable.releaseExpired clock.checked locks).map (·.admittedId) ∨
            i = admittedId := by
          simpa using hi
        rcases happ with hi | rfl
        · exact .inl (hlive i hi)
        · exact .inr rfl
  | release admittedId => exact fun i hi => .inl ((List.eraseP_sublist.map _).subset hi)
  | isHeld admittedId => exact fun i hi => .inl (hlive i hi)
  | heldLockCount => exact fun i hi => .inl (hlive i hi)

theorem agree_run {now : Nat} {locks : List LockEntry} {wires : List LockEntryWire} {cs : List TimedCall}
    (h : Agree now locks wires) (hclock : ClockOrdered now cs) (hleases : LeasesCarried cs)
    (hdistinct : DistinctAcquires cs)
    (hfresh : ∀ i ∈ locks.map (·.admittedId), i ∉ cs.filterMap fun c => c.call.acquired) :
    (runTable MemoryResourceLockTable.call locks cs).1 = (runTable LockWire.call wires cs).1 := by
  induction cs generalizing now locks wires with
  | nil => rfl
  | cons c cs ih =>
      obtain ⟨hnow, hstamp, hclock⟩ := hclock
      have hcall := agree_call (h.later hnow) (hleases c (by simp)) fun i hi hmem =>
        hfresh i hmem (List.mem_filterMap.2 ⟨c, by simp, hi⟩)
      have hrest : DistinctAcquires cs := hdistinct.sublist ((List.sublist_cons_self c cs).filterMap _)
      have hnext := ih (hcall.2.later hstamp) hclock (fun c' hc' => hleases c' (by simp [hc'])) hrest fun i hi hmem => by
        rcases call_admittedIds locks c i hi with hold | hnew
        · exact hfresh i hold (((List.sublist_cons_self c cs).filterMap _).subset hmem)
        · unfold DistinctAcquires at hdistinct
          rw [List.filterMap_cons_some (by exact hnew), List.nodup_cons] at hdistinct
          exact hdistinct.1 hmem
      simp only [runTable, hcall.1, hnext]

end Cantilune
