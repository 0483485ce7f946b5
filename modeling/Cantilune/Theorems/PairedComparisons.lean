import Cantilune.Evaluation.MetricObservation

/-!
# Paired comparisons

A row of a case keeps the last value of each subject. What the pairs are made of is read off the same loop, run over
the observations themselves.
-/

namespace Cantilune

variable {observations observations' : List MetricObservation} {baselineRef candidateRef caseRef ref : String}
  {obs x y : MetricObservation}

/-! ## What a row comes from -/

def observed (obs : MetricObservation) : Option MetricObservation :=
  if (numericValue obs).isSome then some obs else none

def valueOf (obs : MetricObservation) : ℚ := (numericValue obs).getD 0

theorem numericValue_eq (obs : MetricObservation) : numericValue obs = (observed obs).map valueOf := by
  unfold observed valueOf
  cases h : numericValue obs <;> simp [h]

def pairedObservations (observations : List MetricObservation) (baselineRef candidateRef : String) :
    List (String × MetricObservation × MetricObservation) :=
  completeRows (rowsByCase observed baselineRef candidateRef observations)

def entriesOf (observations : List MetricObservation) (caseRef ref : String) : List MetricObservation :=
  observations.filter fun obs =>
    isObservationUsable obs ∧ (numericValue obs).isSome ∧ obs.caseRef = caseRef ∧ obs.subjectRef = ref

theorem mem_entriesOf : obs ∈ entriesOf observations caseRef ref ↔ obs ∈ observations ∧
    isObservationUsable obs ∧ (numericValue obs).isSome ∧ obs.caseRef = caseRef ∧ obs.subjectRef = ref := by
  simp [entriesOf]

theorem entriesOf_perm (h : observations.Perm observations') (caseRef ref : String) :
    (entriesOf observations caseRef ref).Perm (entriesOf observations' caseRef ref) := h.filter _

def PairRow.map {V W : Type} (f : V → W) (row : PairRow V) : PairRow W :=
  { baseline := row.baseline.map f, candidate := row.candidate.map f }

theorem recordObservation_map {V W : Type} (f : V → W) (read : MetricObservation → Option V)
    (byCase : OrdMap String (PairRow V)) (obs : MetricObservation) :
    (recordObservation read baselineRef candidateRef byCase obs).mapValues (PairRow.map f) =
      recordObservation (fun obs => (read obs).map f) baselineRef candidateRef (byCase.mapValues (PairRow.map f))
        obs := by
  unfold recordObservation
  dsimp only
  split
  · cases read obs with
    | none => rfl
    | some value =>
        dsimp only [Option.map_some]
        rw [OrdMap.mapValues_set, OrdMap.get?_mapValues]
        congr 1
        cases byCase.get? obs.caseRef <;> split <;> split <;> rfl
  · rfl

theorem rowsByCase_map {V W : Type} (f : V → W) (read : MetricObservation → Option V) :
    (rowsByCase read baselineRef candidateRef observations).mapValues (PairRow.map f) =
      rowsByCase (fun obs => (read obs).map f) baselineRef candidateRef observations := by
  have hloop : ∀ byCase : OrdMap String (PairRow V),
      (observations.foldl (recordObservation read baselineRef candidateRef) byCase).mapValues (PairRow.map f) =
        observations.foldl (recordObservation (fun obs => (read obs).map f) baselineRef candidateRef)
          (byCase.mapValues (PairRow.map f)) := by
    induction observations with
    | nil => exact fun byCase => rfl
    | cons obs observations ih => exact fun byCase => (ih _).trans (by rw [recordObservation_map]; rfl)
  exact hloop .empty

theorem completeRows_map {V W : Type} (f : V → W) (byCase : OrdMap String (PairRow V)) :
    completeRows (byCase.mapValues (PairRow.map f)) =
      (completeRows byCase).map fun row => (row.1, f row.2.1, f row.2.2) := by
  unfold completeRows OrdMap.mapValues
  rw [List.filterMap_map, List.map_filterMap]
  refine List.filterMap_congr fun entry _ => ?_
  cases hb : entry.2.baseline <;> cases hc : entry.2.candidate <;> simp [PairRow.map, hb, hc]

theorem pairByCase_eq (observations : List MetricObservation) (baselineRef candidateRef : String) :
    pairByCase observations baselineRef candidateRef =
      (pairedObservations observations baselineRef candidateRef).map fun row =>
        { caseRef := row.1, difference := valueOf row.2.2 - valueOf row.2.1 } := by
  have hread : numericValue = fun obs => (observed obs).map valueOf := funext numericValue_eq
  rw [pairByCase, hread, ← rowsByCase_map, completeRows_map, List.map_map, pairedObservations]
  rfl

/-! ## The last observation of a case -/

theorem rowsByCase_get (observations : List MetricObservation) (caseRef : String) :
    ((rowsByCase observed baselineRef candidateRef observations).get? caseRef).bind (·.baseline) =
        (entriesOf observations caseRef baselineRef).getLast? ∧
      ((rowsByCase observed baselineRef candidateRef observations).get? caseRef).bind (·.candidate) =
        (entriesOf observations caseRef candidateRef).getLast? := by
  induction observations using List.reverseRecOn with
  | nil => exact ⟨rfl, rfl⟩
  | append_singleton observations obs ih =>
      have hlast : ∀ ref, (entriesOf (observations ++ [obs]) caseRef ref).getLast? =
          if isObservationUsable obs ∧ (numericValue obs).isSome ∧ obs.caseRef = caseRef ∧ obs.subjectRef = ref then
            some obs
          else (entriesOf observations caseRef ref).getLast? := by
        intro ref
        rw [entriesOf, List.filter_append]
        split <;> simp_all [entriesOf]
      rw [hlast, hlast, ← ih.1, ← ih.2, rowsByCase, List.foldl_concat, ← rowsByCase]
      generalize rowsByCase observed baselineRef candidateRef observations = byCase
      by_cases husable : isObservationUsable obs = true ∧ (numericValue obs).isSome = true
      · have hstep : recordObservation observed baselineRef candidateRef byCase obs = byCase.set obs.caseRef
            { baseline := if obs.subjectRef = baselineRef then some obs
                else (byCase.get? obs.caseRef).bind (·.baseline)
              candidate := if obs.subjectRef = candidateRef then some obs
                else (byCase.get? obs.caseRef).bind (·.candidate) } := by
          simp only [recordObservation, observed, husable.1, husable.2, if_true]
          congr 1
          cases byCase.get? obs.caseRef <;> split <;> split <;> rfl
        rw [hstep, OrdMap.get?_set]
        by_cases hcase : obs.caseRef = caseRef
        · simp [husable, hcase]
        · simp [Ne.symm hcase, hcase]
      · have hstep : recordObservation observed baselineRef candidateRef byCase obs = byCase := by
          unfold recordObservation observed
          split
          · rw [if_neg fun h => husable ⟨‹_›, h⟩]
          · rfl
        have hskip : ∀ ref, ¬ (isObservationUsable obs = true ∧ (numericValue obs).isSome = true ∧
            obs.caseRef = caseRef ∧ obs.subjectRef = ref) := fun ref h => husable ⟨h.1, h.2.1⟩
        rw [hstep, if_neg (hskip _), if_neg (hskip _)]
        exact ⟨rfl, rfl⟩

theorem mem_pairedObservations : (caseRef, x, y) ∈ pairedObservations observations baselineRef candidateRef ↔
    (entriesOf observations caseRef baselineRef).getLast? = some x ∧
      (entriesOf observations caseRef candidateRef).getLast? = some y := by
  obtain ⟨hbaseline, hcandidate⟩ := @rowsByCase_get baselineRef candidateRef observations caseRef
  rw [← hbaseline, ← hcandidate, pairedObservations, completeRows, List.mem_filterMap]
  constructor
  · rintro ⟨entry, hentry, hrow⟩
    obtain ⟨b, hb, hrow⟩ := Option.bind_eq_some_iff.1 hrow
    obtain ⟨c, hc, hrow⟩ := Option.map_eq_some_iff.1 hrow
    cases hrow
    rw [OrdMap.mem_entries.1 hentry]
    exact ⟨hb, hc⟩
  · rintro ⟨hx, hy⟩
    obtain ⟨row, hrow, hb⟩ := Option.bind_eq_some_iff.1 hx
    rw [hrow] at hy
    refine ⟨(caseRef, row), OrdMap.mem_entries.2 hrow, ?_⟩
    rw [hb, Option.bind_some, show row.candidate = some y from hy]
    rfl

theorem nodup_pairs (observations : List MetricObservation) (baselineRef candidateRef : String) :
    ((pairByCase observations baselineRef candidateRef).map (·.caseRef)).Nodup := by
  have hsublist : ∀ byCase : OrdMap String (PairRow MetricObservation),
      ((completeRows byCase).map (·.1)).Sublist byCase.keys := by
    intro byCase
    unfold completeRows OrdMap.keys
    induction byCase.entries with
    | nil => exact .slnil
    | cons entry entries ih =>
        rw [List.filterMap_cons]
        cases hb : entry.2.baseline with
        | none => exact ih.cons _
        | some b =>
            cases hc : entry.2.candidate with
            | none => exact ih.cons _
            | some c => exact ih.cons_cons _
  rw [pairByCase_eq, List.map_map]
  exact (OrdMap.nodupKeys _).sublist (hsublist _)

/-! ## When the pairs are well defined -/

theorem entriesOf_filter (observations : List MetricObservation) (caseRef ref : String) :
    entriesOf (observations.filter isObservationUsable) caseRef ref = entriesOf observations caseRef ref := by
  rw [entriesOf, entriesOf, List.filter_filter]
  exact List.filter_congr fun obs _ => by simp +contextual

theorem pairs_of_some {input : AnalyzeObservationsInput} (hb : input.baselineSubjectRef = some baselineRef)
    (hc : input.candidateSubjectRef = some candidateRef) :
    input.pairs = pairByCase (input.observations.filter isObservationUsable) baselineRef candidateRef := by
  rw [AnalyzeObservationsInput.pairs, hb, hc]

theorem mem_pairByCase {p : CasePair} :
    p ∈ pairByCase (observations.filter isObservationUsable) baselineRef candidateRef ↔
      ∃ x y, (entriesOf observations p.caseRef baselineRef).getLast? = some x ∧
        (entriesOf observations p.caseRef candidateRef).getLast? = some y ∧
        p.difference = valueOf y - valueOf x := by
  obtain ⟨caseRef, difference⟩ := p
  rw [pairByCase_eq, List.mem_map]
  constructor
  · rintro ⟨⟨k, x, y⟩, hrow, heq⟩
    cases heq
    rw [mem_pairedObservations, entriesOf_filter, entriesOf_filter] at hrow
    exact ⟨x, y, hrow.1, hrow.2, rfl⟩
  · rintro ⟨x, y, hx, hy, hdifference⟩
    refine ⟨(caseRef, x, y), ?_, congrArg (CasePair.mk caseRef) hdifference.symm⟩
    rw [mem_pairedObservations, entriesOf_filter, entriesOf_filter]
    exact ⟨hx, hy⟩

def WellPaired (input : AnalyzeObservationsInput) : Prop :=
  (∀ observations', observations'.Perm input.observations →
    { input with observations := observations' }.pairs.Perm input.pairs) ∧
  ∀ baselineRef candidateRef, input.baselineSubjectRef = some baselineRef →
    input.candidateSubjectRef = some candidateRef →
    ∀ row ∈ pairedObservations (input.observations.filter isObservationUsable) baselineRef candidateRef,
      row.2.1.subjectRef = baselineRef ∧ row.2.2.subjectRef = candidateRef ∧
        row.2.1.caseRef = row.2.2.caseRef ∧ row.2.1.metricRef = row.2.2.metricRef

def OneValueEach (observations : List MetricObservation) (baselineRef candidateRef : String) : Prop :=
  ∀ caseRef x y, (entriesOf observations caseRef baselineRef).getLast? = some x →
    (entriesOf observations caseRef candidateRef).getLast? = some y →
    (∀ x' ∈ entriesOf observations caseRef baselineRef, valueOf x' = valueOf x) ∧
      (∀ y' ∈ entriesOf observations caseRef candidateRef, valueOf y' = valueOf y) ∧ x.metricRef = y.metricRef

theorem exists_perm_last {caseRef : String} (hx : x ∈ entriesOf observations caseRef ref) {other : String}
    (hother : ref ≠ other) : ∃ observations', observations'.Perm observations ∧
      (entriesOf observations' caseRef ref).getLast? = some x ∧
      entriesOf observations' caseRef other = entriesOf observations caseRef other := by
  obtain ⟨hmem, husable, hvalue, hcase, hsubject⟩ := mem_entriesOf.1 hx
  obtain ⟨before, after, rfl⟩ := List.append_of_mem hmem
  refine ⟨before ++ after ++ [x], ?_, ?_, ?_⟩
  · rw [List.append_assoc]
    exact (List.perm_append_singleton x after).append_left before
  · simp [entriesOf, List.filter_append, husable, hvalue, hcase, hsubject]
  · simp [entriesOf, List.filter_append, hsubject, hother]

theorem mem_pairByCase_of_perm (h : observations.Perm observations')
    (hsettled : baselineRef ≠ candidateRef → ∀ caseRef,
      ∀ x ∈ entriesOf observations caseRef baselineRef, ∀ x' ∈ entriesOf observations caseRef baselineRef,
        ∀ y ∈ entriesOf observations caseRef candidateRef, ∀ y' ∈ entriesOf observations caseRef candidateRef,
          valueOf x = valueOf x' ∧ valueOf y = valueOf y') {p : CasePair}
    (hp : p ∈ pairByCase (observations.filter isObservationUsable) baselineRef candidateRef) :
    p ∈ pairByCase (observations'.filter isObservationUsable) baselineRef candidateRef := by
  obtain ⟨x, y, hx, hy, hdifference⟩ := mem_pairByCase.1 hp
  have hlast : ∀ ref z, (entriesOf observations p.caseRef ref).getLast? = some z →
      ∃ z', (entriesOf observations' p.caseRef ref).getLast? = some z' ∧
        z' ∈ entriesOf observations p.caseRef ref := by
    intro ref z hz
    have hperm := entriesOf_perm h p.caseRef ref
    have hne : entriesOf observations' p.caseRef ref ≠ [] := by
      intro hnil
      rw [hnil, List.perm_nil] at hperm
      rw [hperm] at hz
      cases hz
    refine ⟨_, List.getLast?_eq_some_getLast hne, ?_⟩
    exact hperm.mem_iff.2 (List.getLast_mem hne)
  obtain ⟨x', hx', hmemx'⟩ := hlast baselineRef x hx
  obtain ⟨y', hy', hmemy'⟩ := hlast candidateRef y hy
  refine mem_pairByCase.2 ⟨x', y', hx', hy', ?_⟩
  by_cases hsame : baselineRef = candidateRef
  · subst hsame
    rw [hx] at hy
    rw [hx'] at hy'
    cases hy
    cases hy'
    rw [hdifference, sub_self, sub_self]
  · obtain ⟨hvx, hvy⟩ := hsettled hsame p.caseRef x (List.mem_of_getLast? hx) x' hmemx' y (List.mem_of_getLast? hy)
      y' hmemy'
    rw [hdifference, hvx, hvy]

theorem value_eq_of_wellPaired {input : AnalyzeObservationsInput} (h : WellPaired input)
    (hb : input.baselineSubjectRef = some baselineRef) (hc : input.candidateSubjectRef = some candidateRef)
    (hx : (entriesOf input.observations caseRef baselineRef).getLast? = some x)
    (hy : (entriesOf input.observations caseRef candidateRef).getLast? = some y) {x' y' : MetricObservation}
    (hperm : observations'.Perm input.observations)
    (hx' : (entriesOf observations' caseRef baselineRef).getLast? = some x')
    (hy' : (entriesOf observations' caseRef candidateRef).getLast? = some y') :
    valueOf y' - valueOf x' = valueOf y - valueOf x := by
  have hpairs := h.1 observations' hperm
  rw [@pairs_of_some _ _ input hb hc,
    @pairs_of_some _ _ { input with observations := observations' } hb hc] at hpairs
  have hhere : (⟨caseRef, valueOf y - valueOf x⟩ : CasePair) ∈
      pairByCase (input.observations.filter isObservationUsable) baselineRef candidateRef :=
    mem_pairByCase.2 ⟨x, y, hx, hy, rfl⟩
  have hthere : (⟨caseRef, valueOf y' - valueOf x'⟩ : CasePair) ∈
      pairByCase (input.observations.filter isObservationUsable) baselineRef candidateRef :=
    hpairs.mem_iff.1 (mem_pairByCase.2 ⟨x', y', hx', hy', rfl⟩)
  have hsame := List.inj_on_of_nodup_map (nodup_pairs _ _ _) hthere hhere rfl
  exact congrArg CasePair.difference hsame

/-- A paired comparison is well defined exactly when its two subjects are one and the same, or every case is
settled. -/
theorem wellPaired_iff (input : AnalyzeObservationsInput) :
    WellPaired input ↔ ∀ baselineRef candidateRef, input.baselineSubjectRef = some baselineRef →
      input.candidateSubjectRef = some candidateRef → baselineRef ≠ candidateRef →
      OneValueEach input.observations baselineRef candidateRef := by
  constructor
  · intro h b c hb hc hne caseRef x y hx hy
    refine ⟨fun x' hx' => ?_, fun y' hy' => ?_, ?_⟩
    · obtain ⟨observations', hperm, hlast, hother⟩ := exists_perm_last hx' hne
      have hvalue := value_eq_of_wellPaired h hb hc hx hy hperm hlast (hother ▸ hy)
      exact sub_right_injective hvalue
    · obtain ⟨observations', hperm, hlast, hother⟩ := exists_perm_last hy' (Ne.symm hne)
      have hvalue := value_eq_of_wellPaired h hb hc hx hy hperm (hother ▸ hx) hlast
      exact sub_left_injective hvalue
    · have hrow : (caseRef, x, y) ∈ pairedObservations (input.observations.filter isObservationUsable) b c := by
        rw [mem_pairedObservations, entriesOf_filter, entriesOf_filter]
        exact ⟨hx, hy⟩
      exact (h.2 b c hb hc _ hrow).2.2.2
  · intro h
    refine ⟨fun observations' hperm => ?_, fun b c hb hc row hrow => ?_⟩
    · rcases Option.eq_none_or_eq_some input.baselineSubjectRef with hb | ⟨b, hb⟩
      · simp [AnalyzeObservationsInput.pairs, hb]
      · rcases Option.eq_none_or_eq_some input.candidateSubjectRef with hc | ⟨c, hc⟩
        · simp [AnalyzeObservationsInput.pairs, hc]
        · rw [@pairs_of_some _ _ input hb hc,
            @pairs_of_some _ _ { input with observations := observations' } hb hc]
          have hvalues : b ≠ c → ∀ caseRef, ∀ x ∈ entriesOf input.observations caseRef b,
              ∀ x' ∈ entriesOf input.observations caseRef b, ∀ y ∈ entriesOf input.observations caseRef c,
                ∀ y' ∈ entriesOf input.observations caseRef c,
                  valueOf x = valueOf x' ∧ valueOf y = valueOf y' := by
            intro hne caseRef x hx x' hx' y hy y' hy'
            obtain ⟨hsx, hsy, -⟩ := h b c hb hc hne caseRef _ _
              (List.getLast?_eq_some_getLast (List.ne_nil_of_mem hx))
              (List.getLast?_eq_some_getLast (List.ne_nil_of_mem hy))
            exact ⟨(hsx x hx).trans (hsx x' hx').symm, (hsy y hy).trans (hsy y' hy').symm⟩
          apply (List.perm_ext_iff_of_nodup (nodup_pairs _ _ _).of_map (nodup_pairs _ _ _).of_map).2
          intro p
          refine ⟨mem_pairByCase_of_perm hperm ?_, mem_pairByCase_of_perm hperm.symm hvalues⟩
          intro hne caseRef x hx x' hx' y hy y' hy'
          have hmem : ∀ ref z, z ∈ entriesOf observations' caseRef ref →
              z ∈ entriesOf input.observations caseRef ref := fun ref z hz =>
            (entriesOf_perm hperm caseRef ref).mem_iff.1 hz
          exact hvalues hne caseRef x (hmem b x hx) x' (hmem b x' hx') y (hmem c y hy) y' (hmem c y' hy')
    · obtain ⟨caseRef, x, y⟩ := row
      rw [mem_pairedObservations, entriesOf_filter, entriesOf_filter] at hrow
      obtain ⟨-, -, -, hcaseX, hsubjectX⟩ := mem_entriesOf.1 (List.mem_of_getLast? hrow.1)
      obtain ⟨-, -, -, hcaseY, hsubjectY⟩ := mem_entriesOf.1 (List.mem_of_getLast? hrow.2)
      refine ⟨hsubjectX, hsubjectY, hcaseX.trans hcaseY.symm, ?_⟩
      by_cases hsame : b = c
      · subst hsame
        rw [hrow.1] at hrow
        cases hrow.2
        rfl
      · exact (h b c hb hc hsame caseRef x y hrow.1 hrow.2).2.2

def metricRow (metricRef subjectRef : String) (value : ℚ) : MetricObservation where
  metricRef := metricRef
  caseRef := "c1"
  subjectRef := subjectRef
  rawValue := some (.finite value)
  normalizedValue := none
  status := .valid

/-- The candidate's latency is set against the baseline's accuracy; and of two runs with other seeds the last one
counts. -/
theorem comparisons_not_wellPaired :
    ¬ WellPaired { observations := [metricRow "accuracy" "base" 0, metricRow "latency" "cand" 9]
                   candidateSubjectRef := some "cand", baselineSubjectRef := some "base" } ∧
    ¬ WellPaired { observations := [metricRow "accuracy" "base" 0, metricRow "accuracy" "cand" 1,
                     metricRow "accuracy" "cand" 2]
                   candidateSubjectRef := some "cand", baselineSubjectRef := some "base" } := by
  refine ⟨fun h => ?_, fun h => ?_⟩
  · have hrow := h.2 "base" "cand" rfl rfl ("c1", metricRow "accuracy" "base" 0, metricRow "latency" "cand" 9)
      (by decide +kernel)
    exact absurd hrow.2.2.2 (by decide)
  · have hperm := h.1 [metricRow "accuracy" "base" 0, metricRow "accuracy" "cand" 2,
      metricRow "accuracy" "cand" 1] (.cons _ (.swap _ _ _))
    exact absurd (hperm.mem_iff (a := ⟨"c1", 1⟩)).1 (by decide +kernel)

end Cantilune
