import Mathlib
import Cantilune.Base.Cone
import Cantilune.Petri.Invariants

/-!
# The elimination as a cone

The rows of the elimination are vectors with entries that are not negative. After each column they generate
the solutions of the columns so far, so that the rows at the end generate all weights that the matrix allows.
-/

namespace Cantilune.Petri

open PointedCone

variable {m : Nat} {A B : List Row} {row : Row}

/-! ## Rows as vectors -/

/-- A row as a vector with `m` entries. -/
def rowVec (m : Nat) (row : Row) : Fin m → ℚ := fun i => (row.getD i 0 : ℚ)

def column (m : Nat) (A : List Row) (j : Nat) : (Fin m → ℚ) →ₗ[ℚ] ℚ :=
  ∑ k : Fin m, (((A.getD k []).getD j 0 : Int) : ℚ) • LinearMap.proj k

def arcsIn (net : PetriNet) (transitionId placeId : String) : Nat :=
  match classifyArcsForTransition net transitionId with
  | .error _ => 0
  | .ok c => (c.inputs.map (·.placeId)).count placeId

def arcsOut (net : PetriNet) (transitionId placeId : String) : Nat :=
  match classifyArcsForTransition net transitionId with
  | .error _ => 0
  | .ok c => (c.outputs.map (·.placeId)).count placeId

def fireChange (net : PetriNet) (transitionId placeId : String) : Int :=
  arcsOut net transitionId placeId - (min 1 (arcsIn net transitionId placeId) : Nat)

def changeForm (net : PetriNet) (t : String) : (Fin net.placeIds.length → ℚ) →ₗ[ℚ] ℚ :=
  ∑ k : Fin net.placeIds.length, (fireChange net t (net.placeIds.getD k "") : ℚ) • LinearMap.proj k

theorem sum_range_map {M : Type} [AddCommMonoid M] (f : Nat → M) (n : Nat) :
    ((List.range n).map f).sum = ∑ i : Fin n, f i := by
  rw [Fin.sum_univ_eq_sum_range]
  rfl

theorem column_apply (x : Fin m → ℚ) (j : Nat) :
    column m A j x = ∑ k : Fin m, x k * (((A.getD k []).getD j 0 : Int) : ℚ) := by
  simp [column, mul_comm]

theorem column_rowVec (hA : A.length = m) (j : Nat) : column m A j (rowVec m row) = (dotColumn row A j : ℚ) := by
  rw [column_apply, dotColumn, hA, sum_range_map, Int.cast_sum]
  exact Finset.sum_congr rfl fun k _ => by rw [rowVec, Int.cast_mul]

def rowCone (m : Nat) (B : List Row) : PointedCone ℚ (Fin m → ℚ) := hull ℚ {v | ∃ row ∈ B, rowVec m row = v}

theorem rowVec_mem (h : row ∈ B) : rowVec m row ∈ rowCone m B := subset_hull ⟨row, h, rfl⟩

theorem rowCone_le {B' : List Row} (h : ∀ row ∈ B, rowVec m row ∈ rowCone m B') : rowCone m B ≤ rowCone m B' := by
  refine Submodule.span_le.2 ?_
  rintro _ ⟨row, hrow, rfl⟩
  exact h row hrow

theorem wholeRatio_eq_some {av bv r : Int} (h : wholeRatio av bv = some r) : 0 < r ∧ av = r * bv := by
  unfold wholeRatio at h
  split at h
  · rename_i hdvd
    cases h
    exact ⟨hdvd.2, (Int.ediv_mul_cancel hdvd.1).symm⟩
  · cases h

theorem sameRatio_spec {pairs : List (Int × Int)} {ratio : Option Int} (hpos : ∀ r ∈ ratio, 0 < r)
    (h : sameRatio pairs ratio = true) : ∃ r, 0 < r ∧ (∀ known ∈ ratio, known = r) ∧ ∀ e ∈ pairs, e.1 = r * e.2 := by
  induction pairs generalizing ratio with
  | nil =>
      obtain ⟨r, hr⟩ := Option.isSome_iff_exists.1 h
      exact ⟨r, hpos r hr, fun known hk => Option.some.inj (hk.symm.trans hr), by simp⟩
  | cons e rest ih =>
      obtain ⟨av, bv⟩ := e
      simp only [sameRatio] at h
      split at h
      · cases h
      · split at h
        · rename_i hzero
          obtain ⟨r, hr, hknown, hrest⟩ := ih hpos h
          refine ⟨r, hr, hknown, List.forall_mem_cons.2 ⟨?_, hrest⟩⟩
          simp [hzero.1, hzero.2]
        · split at h
          · cases h
          · rename_i r hratio
            obtain ⟨hr, hav⟩ := wholeRatio_eq_some hratio
            split at h
            · obtain ⟨r', hr', hknown, hrest⟩ := ih (by simpa using hr) h
              have heq : r = r' := hknown r rfl
              exact ⟨r', hr', by simp, List.forall_mem_cons.2 ⟨by rw [← heq, hav], hrest⟩⟩
            · rename_i known
              split at h
              · rename_i heq
                obtain ⟨r', hr', hknown, hrest⟩ := ih hpos h
                have heq' : known = r' := hknown known rfl
                exact ⟨r', hr', hknown, List.forall_mem_cons.2 ⟨by rw [← heq', ← heq, hav], hrest⟩⟩
              · cases h

theorem rowVec_of_isScalarMultiple {a b : Row} (ha : a.length = m) (h : isScalarMultiple a b = true) :
    ∃ r : Int, 0 < r ∧ rowVec m a = (r : ℚ) • rowVec m b := by
  unfold isScalarMultiple at h
  simp only at h
  split at h
  · cases h
  · split at h
    · cases h
    · obtain ⟨r, hr, _, hpairs⟩ := sameRatio_spec (by simp) h
      refine ⟨r, hr, funext fun i => ?_⟩
      have hi : (i : Nat) ∈ List.range a.length := by
        rw [List.mem_range, ha]
        exact i.isLt
      have hentry := hpairs _ (List.mem_map.2 ⟨(i : Nat), hi, rfl⟩)
      simp only [rowVec, Pi.smul_apply, smul_eq_mul] at hentry ⊢
      rw [hentry, Int.cast_mul]

/-! ## Reduced rows -/

theorem mem_reduceRow {result : List Row} {kept : Row} (h : kept ∈ reduceRow result row) : kept ∈ result ∨ kept = row := by
  unfold reduceRow at h
  split at h
  · exact .inl h
  · rcases List.mem_append.1 h with h | h
    · exact .inl (List.mem_filter.1 h).1
    · exact .inr (List.mem_singleton.1 h)

theorem mem_foldl_reduceRow {rows result : List Row} {kept : Row} (h : kept ∈ rows.foldl reduceRow result) :
    kept ∈ result ∨ kept ∈ rows := by
  induction rows generalizing result with
  | nil => exact .inl h
  | cons row rows ih =>
      rcases ih h with h | h
      · exact (mem_reduceRow h).imp_right fun h => by simp [h]
      · exact .inr (List.mem_cons_of_mem _ h)

theorem mem_reduceRows {rows : List Row} (h : row ∈ reduceRows rows) : row ∈ rows :=
  (mem_foldl_reduceRow h).resolve_left List.not_mem_nil

theorem rowVec_mem_of_multiple {a b : Row} (ha : a.length = m) (h : isScalarMultiple a b = true) (hb : b ∈ B) :
    rowVec m a ∈ rowCone m B := by
  obtain ⟨r, hr, heq⟩ := rowVec_of_isScalarMultiple ha h
  rw [heq]
  exact Cone.smul_mem_hull (by exact_mod_cast hr.le) (rowVec_mem hb)

theorem rowCone_reduceRow {result : List Row} (hrow : row.length = m) (hlength : ∀ kept ∈ result, kept.length = m) :
    rowCone m (row :: result) ≤ rowCone m (reduceRow result row) := by
  refine rowCone_le fun v hv => ?_
  unfold reduceRow
  split
  · rename_i hany
    obtain ⟨kept, hkept, hmul⟩ := List.any_eq_true.1 hany
    rcases List.mem_cons.1 hv with rfl | hv
    · exact rowVec_mem_of_multiple hrow hmul hkept
    · exact rowVec_mem hv
  · rcases List.mem_cons.1 hv with rfl | hv
    · exact rowVec_mem (by simp)
    · by_cases hmul : isScalarMultiple v row = true
      · exact rowVec_mem_of_multiple (hlength v hv) hmul (by simp)
      · exact rowVec_mem (List.mem_append_left _ (List.mem_filter.2 ⟨hv, by simpa using hmul⟩))

theorem rowCone_foldl_reduceRow {rows result : List Row} (hrows : ∀ row ∈ rows, row.length = m)
    (hresult : ∀ kept ∈ result, kept.length = m) :
    rowCone m (rows ++ result) ≤ rowCone m (rows.foldl reduceRow result) := by
  induction rows generalizing result with
  | nil => exact le_rfl
  | cons row rows ih =>
      rw [List.forall_mem_cons] at hrows
      have hkept : ∀ kept ∈ reduceRow result row, kept.length = m := fun kept hk => by
        rcases mem_reduceRow hk with hk | rfl
        · exact hresult kept hk
        · exact hrows.1
      have hstep := rowCone_reduceRow hrows.1 hresult
      refine le_trans (rowCone_le fun v hv => ?_) (ih hrows.2 hkept)
      have hsub : rowCone m (reduceRow result row) ≤ rowCone m (rows ++ reduceRow result row) :=
        rowCone_le fun u hu => rowVec_mem (List.mem_append_right _ hu)
      rw [List.cons_append, List.mem_cons, List.mem_append] at hv
      rcases hv with rfl | hv | hv
      · exact hsub (hstep (rowVec_mem List.mem_cons_self))
      · exact rowVec_mem (List.mem_append_left _ hv)
      · exact hsub (hstep (rowVec_mem (List.mem_cons_of_mem _ hv)))

theorem rowCone_reduceRows {rows : List Row} (hrows : ∀ row ∈ rows, row.length = m) :
    rowCone m rows ≤ rowCone m (reduceRows rows) := by
  have h : rowCone m (rows ++ []) ≤ rowCone m (reduceRows rows) := rowCone_foldl_reduceRow hrows (by simp)
  rwa [List.append_nil] at h

/-! ## One column -/

section Column
variable {j : Nat}

def cancelRow (A : List Row) (m j : Nat) (p n : Row) : Row :=
  (List.range m).map fun k => p.getD k 0 * (dotColumn n A j).natAbs + n.getD k 0 * (dotColumn p A j).natAbs

def IsCut (A : List Row) (m j : Nat) (B : List Row) (row : Row) : Prop :=
  row ∈ B ∧ dotColumn row A j = 0 ∨
    ∃ p ∈ B, ∃ n ∈ B, 0 < dotColumn p A j ∧ dotColumn n A j < 0 ∧ row = cancelRow A m j p n

theorem getD_cancelRow {p n : Row} {k : Nat} (hk : k < m) : (cancelRow A m j p n).getD k 0 =
    p.getD k 0 * (dotColumn n A j).natAbs + n.getD k 0 * (dotColumn p A j).natAbs := by
  simp [cancelRow, hk]

theorem getD_signed (i : Nat) (hi : i < B.length) :
    (B.map fun row => dotColumn row A j).getD i 0 = dotColumn (B.getD i []) A j := by
  simp [hi]

theorem mem_positives {i : Nat} : i ∈ (partitionBySign (B.map fun row => dotColumn row A j)).positives ↔
    i < B.length ∧ 0 < dotColumn (B.getD i []) A j := by
  simp only [partitionBySign, List.mem_filter, List.mem_range, List.length_map, decide_eq_true_eq]
  exact and_congr_right fun hi => by rw [getD_signed i hi]

theorem mem_negatives {i : Nat} : i ∈ (partitionBySign (B.map fun row => dotColumn row A j)).negatives ↔
    i < B.length ∧ dotColumn (B.getD i []) A j < 0 := by
  simp only [partitionBySign, List.mem_filter, List.mem_range, List.length_map, decide_eq_true_eq]
  exact and_congr_right fun hi => by rw [getD_signed i hi]

theorem mem_zeros {i : Nat} : i ∈ (partitionBySign (B.map fun row => dotColumn row A j)).zeros ↔
    i < B.length ∧ dotColumn (B.getD i []) A j = 0 := by
  simp only [partitionBySign, List.mem_filter, List.mem_range, List.length_map, decide_eq_true_eq]
  exact and_congr_right fun hi => by rw [getD_signed i hi]

theorem mem_iff_getD {B : List Row} : row ∈ B ↔ ∃ i, i < B.length ∧ B.getD i [] = row := by
  rw [List.mem_iff_getElem]
  exact exists_congr fun i => ⟨fun ⟨hi, h⟩ => ⟨hi, by simp [hi, h]⟩, fun ⟨hi, h⟩ => ⟨hi, by simpa [hi] using h⟩⟩

def cutRows (A : List Row) (m j : Nat) (B : List Row) : List Row :=
  let signed := B.map fun row => dotColumn row A j
  let signs := partitionBySign signed
  let combined := combineOppositeSigned B signed signs.positives signs.negatives m
  keepUnusedZeros B signs.zeros combined.2 ++ combined.1

theorem mem_cutRows : row ∈ cutRows A m j B ↔ IsCut A m j B row := by
  rw [cutRows, IsCut, List.mem_append]
  refine or_congr ?_ ?_
  · simp only [keepUnusedZeros, combineOppositeSigned, List.mem_map, List.mem_filter, mem_zeros]
    constructor
    · rintro ⟨i, ⟨⟨hi, hzero⟩, _⟩, rfl⟩
      exact ⟨mem_iff_getD.2 ⟨i, hi, rfl⟩, hzero⟩
    · rintro ⟨hrow, hzero⟩
      obtain ⟨i, hi, rfl⟩ := mem_iff_getD.1 hrow
      refine ⟨i, ⟨⟨hi, hzero⟩, ?_⟩, rfl⟩
      -- a row that was combined has a product that is not zero
      rw [Bool.not_eq_true', List.contains_eq_mem, decide_eq_false_iff_not]
      intro hused
      simp only [List.mem_flatMap, List.mem_map, mem_positives, mem_negatives] at hused
      obtain ⟨_, ⟨a, ha, b, hb, rfl⟩, hmem⟩ := hused
      simp only [List.mem_cons, List.not_mem_nil, or_false] at hmem
      rcases hmem with rfl | rfl
      · exact ha.2.ne' hzero
      · exact hb.2.ne hzero
  · simp only [combineOppositeSigned, List.mem_map, List.mem_flatMap, mem_positives, mem_negatives]
    constructor
    · rintro ⟨_, ⟨a, ⟨ha, hpos⟩, b, ⟨hb, hneg⟩, rfl⟩, rfl⟩
      refine ⟨_, mem_iff_getD.2 ⟨a, ha, rfl⟩, _, mem_iff_getD.2 ⟨b, hb, rfl⟩, hpos, hneg, ?_⟩
      rw [cancelRow]
      simp only [getD_signed a ha, getD_signed b hb]
    · rintro ⟨p, hp, n, hn, hpos, hneg, rfl⟩
      obtain ⟨a, ha, rfl⟩ := mem_iff_getD.1 hp
      obtain ⟨b, hb, rfl⟩ := mem_iff_getD.1 hn
      refine ⟨(a, b), ⟨a, ⟨ha, hpos⟩, b, ⟨hb, hneg⟩, rfl⟩, ?_⟩
      rw [cancelRow]
      simp only [getD_signed a ha, getD_signed b hb]

theorem mem_eliminateColumn (h : row ∈ eliminateColumn A m B j) : IsCut A m j B row := by
  unfold eliminateColumn at h
  simp only at h
  split at h
  · obtain ⟨i, hi, rfl⟩ := List.mem_map.1 h
    obtain ⟨hi, hzero⟩ := mem_zeros.1 hi
    exact .inl ⟨mem_iff_getD.2 ⟨i, hi, rfl⟩, hzero⟩
  · exact mem_cutRows.1 (mem_reduceRows h)

theorem rowVec_cancelRow {p n : Row} (hA : A.length = m) (hp : 0 < dotColumn p A j) (hn : dotColumn n A j < 0) :
    rowVec m (cancelRow A m j p n) =
      (-column m A j (rowVec m n)) • rowVec m p + column m A j (rowVec m p) • rowVec m n := by
  rw [column_rowVec hA, column_rowVec hA]
  funext k
  have hp' : ((dotColumn p A j).natAbs : Int) = dotColumn p A j := by omega
  have hn' : ((dotColumn n A j).natAbs : Int) = -dotColumn n A j := by omega
  simp only [rowVec, getD_cancelRow k.isLt, Pi.add_apply, Pi.smul_apply, smul_eq_mul, hp', hn']
  push_cast
  ring

theorem rowCone_eliminateColumn (hA : A.length = m) (hlength : ∀ row ∈ B, row.length = m) {x : Fin m → ℚ}
    (hx : x ∈ rowCone m B) (hcolumn : column m A j x = 0) : x ∈ rowCone m (eliminateColumn A m B j) := by
  have hcutLength : ∀ row ∈ cutRows A m j B, row.length = m := by
    intro row hrow
    rcases mem_cutRows.1 hrow with ⟨hmem, _⟩ | ⟨p, _, n, _, _, _, rfl⟩
    · exact hlength row hmem
    · simp [cancelRow]
  have hcut : x ∈ rowCone m (cutRows A m j B) := by
    refine Submodule.span_le.2 ?_ (Cone.mem_hull_cut hx hcolumn)
    rintro v (⟨⟨row, hrow, rfl⟩, hzero⟩ | ⟨_, ⟨p, hp, rfl⟩, _, ⟨n, hn, rfl⟩, hpos, hneg, rfl⟩)
    · rw [column_rowVec hA, Int.cast_eq_zero] at hzero
      exact rowVec_mem (mem_cutRows.2 (.inl ⟨hrow, hzero⟩))
    · rw [column_rowVec hA, Int.cast_pos] at hpos
      rw [column_rowVec hA, Int.cast_lt_zero] at hneg
      rw [← rowVec_cancelRow hA hpos hneg]
      exact rowVec_mem (mem_cutRows.2 (.inr ⟨p, hp, n, hn, hpos, hneg, rfl⟩))
  unfold eliminateColumn
  simp only
  split
  · rename_i hside
    refine rowCone_le (fun row hrow => ?_) hcut
    rcases mem_cutRows.1 hrow with ⟨hmem, hzero⟩ | ⟨p, hp, n, hn, hpos, hneg, _⟩
    · obtain ⟨i, hi, rfl⟩ := mem_iff_getD.1 hmem
      exact rowVec_mem (List.mem_map.2 ⟨i, mem_zeros.2 ⟨hi, hzero⟩, rfl⟩)
    · obtain ⟨a, ha, rfl⟩ := mem_iff_getD.1 hp
      obtain ⟨b, hb, rfl⟩ := mem_iff_getD.1 hn
      rcases hside with h | h
      · exact absurd (mem_positives.2 ⟨ha, hpos⟩) (by rw [List.length_eq_zero_iff.1 h]; exact List.not_mem_nil)
      · exact absurd (mem_negatives.2 ⟨hb, hneg⟩) (by rw [List.length_eq_zero_iff.1 h]; exact List.not_mem_nil)
  · exact rowCone_reduceRows hcutLength hcut

end Column

/-! ## All columns -/

/-- The rows solve the columns so far, and generate all that does. -/
structure Solves (A : List Row) (m j : Nat) (B : List Row) : Prop where
  length : ∀ row ∈ B, row.length = m
  nonneg : ∀ row ∈ B, ∀ k, 0 ≤ row.getD k 0
  columns : ∀ row ∈ B, ∀ i < j, dotColumn row A i = 0
  complete : ∀ x : Fin m → ℚ, (∀ k, 0 ≤ x k) → (∀ i < j, column m A i x = 0) → x ∈ rowCone m B

theorem rowVec_unit (i : Fin m) : rowVec m ((List.replicate m 0).set i 1) = Pi.single i 1 := by
  funext k
  rw [rowVec, Pi.single_apply]
  by_cases h : k = i
  · simp [h]
  · have hne : (i : Nat) ≠ k := fun heq => h (Fin.ext heq.symm)
    simp [h, hne]

theorem solves_seedIdentity : Solves A m 0 (seedIdentity m) where
  length row hrow := by
    obtain ⟨i, _, rfl⟩ := List.mem_map.1 hrow
    simp
  nonneg row hrow k := by
    obtain ⟨i, _, rfl⟩ := List.mem_map.1 hrow
    rw [List.getD_eq_getElem?_getD, List.getElem?_set]
    split
    · split <;> simp
    · rw [List.getElem?_replicate]
      split <;> simp
  columns row _ i hi := absurd hi (Nat.not_lt_zero i)
  complete x hx _ := by
    rw [pi_eq_sum_univ x]
    refine sum_mem fun i _ => Cone.smul_mem_hull (hx i) ?_
    have hunit : (fun j => if i = j then (1 : ℚ) else 0) = rowVec m ((List.replicate m 0).set i 1) := by
      rw [rowVec_unit]
      funext k
      rw [Pi.single_apply]
      exact if_congr eq_comm rfl rfl
    rw [hunit]
    exact rowVec_mem (List.mem_map.2 ⟨i, List.mem_range.2 i.isLt, rfl⟩)

theorem dotColumn_cancelRow {j : Nat} (hA : A.length = m) {p n : Row} (hp : 0 < dotColumn p A j)
    (hn : dotColumn n A j < 0) (i : Nat) : dotColumn (cancelRow A m j p n) A i =
      -dotColumn n A j * dotColumn p A i + dotColumn p A j * dotColumn n A i := by
  have h : (dotColumn (cancelRow A m j p n) A i : ℚ) =
      -dotColumn n A j * dotColumn p A i + dotColumn p A j * dotColumn n A i := by
    rw [← column_rowVec hA, rowVec_cancelRow hA hp hn, map_add, map_smul, map_smul]
    simp only [column_rowVec hA, smul_eq_mul]
  exact_mod_cast h

theorem Solves.eliminateColumn {j : Nat} (hA : A.length = m) (h : Solves A m j B) :
    Solves A m (j + 1) (eliminateColumn A m B j) where
  length row hrow := by
    rcases mem_eliminateColumn hrow with ⟨hmem, _⟩ | ⟨p, _, n, _, _, _, rfl⟩
    · exact h.length row hmem
    · simp [cancelRow]
  nonneg row hrow k := by
    rcases mem_eliminateColumn hrow with ⟨hmem, _⟩ | ⟨p, hp, n, hn, _, _, rfl⟩
    · exact h.nonneg row hmem k
    · by_cases hk : k < m
      · rw [getD_cancelRow hk]
        have hpk := h.nonneg p hp k
        have hnk := h.nonneg n hn k
        positivity
      · simp [cancelRow, hk]
  columns row hrow i hi := by
    rcases mem_eliminateColumn hrow with ⟨hmem, hzero⟩ | ⟨p, hp, n, hn, hpos, hneg, rfl⟩
    · rcases Nat.lt_succ_iff_lt_or_eq.1 hi with hi | rfl
      · exact h.columns row hmem i hi
      · exact hzero
    · rw [dotColumn_cancelRow hA hpos hneg]
      rcases Nat.lt_succ_iff_lt_or_eq.1 hi with hi | rfl
      · rw [h.columns p hp i hi, h.columns n hn i hi, mul_zero, mul_zero, add_zero]
      · ring
  complete x hx hzero :=
    rowCone_eliminateColumn hA h.length (h.complete x hx fun i hi => hzero i (Nat.lt_succ_of_lt hi))
      (hzero j (Nat.lt_succ_self j))

theorem solves_foldl (hA : A.length = m) (n : Nat) :
    Solves A m n ((List.range n).foldl (eliminateColumn A m) (seedIdentity m)) := by
  induction n with
  | zero => exact solves_seedIdentity
  | succ n ih =>
      rw [List.range_succ, List.foldl_append]
      exact ih.eliminateColumn hA

end Cantilune.Petri
