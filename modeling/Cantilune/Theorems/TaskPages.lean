import Cantilune.Comms.A2AOperations
import Cantilune.Theorems.A2ALifecycle
import Cantilune.Theorems.ObservableRuns

/-!
# Pages of a task listing

A page begins at the offset that its token spells, and takes at least one task. Following the tokens from the first
page goes through the whole listing.
-/

namespace Cantilune

namespace A2AOperationEngine

variable {engine : A2AOperationEngine} {params : Option A2AServiceParameters} {localeCompare : LocaleCompare}
  {request : A2AListTasksRequest} {offset : Nat}

theorem toList_toString (n : Nat) : (toString n).toList = Nat.toDigits 10 n := by
  rw [Nat.toString_eq_ofList_toDigits, String.toList_ofList]

theorem toString_ne_empty (n : Nat) : toString n ≠ "" := by
  intro h
  have hchars := toList_toString n
  rw [h] at hchars
  exact Nat.toDigits_ne_nil hchars.symm

theorem decodePageToken_toString (n : Nat) : decodePageToken (some (toString n)) = .ok n := by
  have hdigits : (toString n).toList.all Char.isDigit = true := by
    rw [toList_toString, List.all_eq_true]
    exact fun c hc => Nat.isDigit_of_mem_toDigits (by omega) (by omega) hc
  unfold decodePageToken
  split
  · rename_i h
    cases h
  · rename_i h
    exact absurd (Option.some.inj h) (toString_ne_empty n)
  · rename_i h
    cases h
    rw [if_pos hdigits, toList_toString, Nat.ofDigitChars_ten_toDigits]

theorem one_le_clampPageSize (pageSize : Option Int) : 1 ≤ (clampPageSize pageSize).toNat := by
  unfold clampPageSize A2A_DEFAULT_LIST_PAGE_SIZE A2A_MAX_LIST_PAGE_SIZE
  split
  · decide
  · split
    · decide
    · split
      · decide
      · omega

def shown (request : A2AListTasksRequest) (task : A2ATask) : A2ATask :=
  let withHistory := applyA2AHistoryLength task request.historyLength
  if request.includeArtifacts = some true then withHistory else omitA2ATaskArtifacts withHistory

theorem listTasks_at (hserved : engine.assertVersioned params = .ok ())
    (htoken : decodePageToken request.pageToken = .ok offset) :
    engine.listTasks params localeCompare request = .ok
      { tasks := (((engine.listedTasks localeCompare request).drop offset).take
          (clampPageSize request.pageSize).toNat).map (shown request)
        nextPageToken := if (engine.listedTasks localeCompare request).length ≤
            offset + min (clampPageSize request.pageSize).toNat
              ((engine.listedTasks localeCompare request).length - offset) then ""
          else toString (offset + min (clampPageSize request.pageSize).toNat
            ((engine.listedTasks localeCompare request).length - offset))
        pageSize := clampPageSize request.pageSize
        totalSize := (engine.listedTasks localeCompare request).length } := by
  simp only [listTasks, hserved, htoken, bind, Except.bind, List.length_map, List.length_take, List.length_drop]
  rfl

inductive PagesFrom (engine : A2AOperationEngine) (params : Option A2AServiceParameters)
    (localeCompare : LocaleCompare) : A2AListTasksRequest → List A2AListTasksResponse → Prop where
  | last {request : A2AListTasksRequest} {page : A2AListTasksResponse}
      (h : engine.listTasks params localeCompare request = .ok page) (hlast : page.nextPageToken = "") :
      PagesFrom engine params localeCompare request [page]
  | next {request : A2AListTasksRequest} {page : A2AListTasksResponse} {pages : List A2AListTasksResponse}
      (h : engine.listTasks params localeCompare request = .ok page) (hmore : page.nextPageToken ≠ "")
      (hrest : PagesFrom engine params localeCompare { request with pageToken := some page.nextPageToken } pages) :
      PagesFrom engine params localeCompare request (page :: pages)

theorem pagesFrom_offset (hserved : engine.assertVersioned params = .ok ())
    (htoken : decodePageToken request.pageToken = .ok offset) :
    ∃ pages, PagesFrom engine params localeCompare request pages ∧
      pages.flatMap (·.tasks) = ((engine.listedTasks localeCompare request).drop offset).map (shown request) ∧
      ∀ page ∈ pages, page.totalSize = (engine.listedTasks localeCompare request).length := by
  induction hleft : (engine.listedTasks localeCompare request).length - offset using Nat.strong_induction_on
    generalizing request offset with
  | _ left ih =>
      have hpage := @listTasks_at _ _ localeCompare _ _ hserved htoken
      have hsize := one_le_clampPageSize request.pageSize
      by_cases hend : (engine.listedTasks localeCompare request).length ≤ offset +
          min (clampPageSize request.pageSize).toNat ((engine.listedTasks localeCompare request).length - offset)
      · rw [if_pos hend] at hpage
        refine ⟨_, .last hpage rfl, ?_, by simp⟩
        rw [List.flatMap_singleton, List.take_of_length_le]
        rw [List.length_drop]
        omega
      · rw [if_neg hend] at hpage
        have hmin : min (clampPageSize request.pageSize).toNat
            ((engine.listedTasks localeCompare request).length - offset) = (clampPageSize request.pageSize).toNat := by
          omega
        rw [hmin] at hpage hend
        have hless : (engine.listedTasks localeCompare { request with
            pageToken := some (toString (offset + (clampPageSize request.pageSize).toNat)) }).length -
              (offset + (clampPageSize request.pageSize).toNat) < left := by
          have hsame : engine.listedTasks localeCompare { request with
              pageToken := some (toString (offset + (clampPageSize request.pageSize).toNat)) } =
                engine.listedTasks localeCompare request := rfl
          rw [hsame]
          omega
        obtain ⟨pages, hpages, htasks, htotal⟩ := ih _ hless (decodePageToken_toString _) rfl
        refine ⟨_, .next hpage (toString_ne_empty _) hpages, ?_, List.forall_mem_cons.2 ⟨rfl, htotal⟩⟩
        rw [List.flatMap_cons, htasks, ← List.drop_drop]
        exact (List.map_append.symm.trans (congrArg _ (List.take_append_drop _ _)))

/-! ## The whole listing -/

structure Matches (request : A2AListTasksRequest) (task : A2ATask) : Prop where
  contextId : ∀ contextId, request.contextId = some contextId → task.contextId = some contextId
  status : ∀ state, request.status = some state → task.status.state = state
  after : ∀ bound, request.statusTimestampAfter = some bound →
    ∃ timestamp, task.status.timestamp = some timestamp ∧ JsString.lt timestamp bound = false

theorem mem_listedTasks {task : A2ATask} : task ∈ engine.listedTasks localeCompare request ↔
    engine.tasks.get? task.id = some task ∧ Matches request task := by
  have hmem : task ∈ engine.tasks.values ↔ engine.tasks.get? task.id = some task := by
    rw [OrdMap.mem_values]
    constructor
    · rintro ⟨id, hid⟩
      rw [engine.keyed id task hid]
      exact hid
    · exact fun h => ⟨_, h⟩
  rw [listedTasks, (List.perm_insertionSort _ _).mem_iff, List.mem_filter, List.mem_filter, List.mem_filter, hmem,
    and_assoc, and_assoc]
  refine and_congr_right fun _ => ?_
  have hcontext : decide (request.contextId = none ∨ task.contextId = request.contextId) = true ↔
      ∀ contextId, request.contextId = some contextId → task.contextId = some contextId := by
    cases request.contextId <;> simp
  have hstatus : decide (request.status = none ∨ some task.status.state = request.status) = true ↔
      ∀ state, request.status = some state → task.status.state = state := by
    cases request.status <;> simp
  refine (and_congr hcontext (and_congr hstatus ?_)).trans
    ⟨fun h => ⟨h.1, h.2.1, h.2.2⟩, fun h => ⟨h.contextId, h.status, h.after⟩⟩
  cases request.statusTimestampAfter with
  | none => simp
  | some bound => cases task.status.timestamp <;> simp

theorem listedTasks_ids : ((engine.listedTasks localeCompare request).map (·.id)).Nodup := by
  have hvalues : engine.tasks.values.map (·.id) = engine.tasks.keys := by
    rw [OrdMap.values, OrdMap.keys, List.map_map]
    exact List.map_congr_left fun entry hentry => engine.keyed entry.1 entry.2 (OrdMap.mem_entries.1 hentry)
  have hnodup : (engine.tasks.values.map (·.id)).Nodup := hvalues ▸ engine.tasks.nodupKeys
  rw [listedTasks, ((List.perm_insertionSort _ _).map _).nodup_iff]
  exact List.Nodup.sublist (List.Sublist.map _
    (List.filter_sublist.trans (List.filter_sublist.trans List.filter_sublist))) hnodup

theorem listedTasks_sorted (h : Collates localeCompare) :
    (engine.listedTasks localeCompare request).Pairwise fun earlier later =>
      localeCompare (later.status.timestamp.getD "") (earlier.status.timestamp.getD "") ≤ 0 := by
  have htotal : Std.Total fun earlier later : A2ATask =>
      localeCompare (later.status.timestamp.getD "") (earlier.status.timestamp.getD "") ≤ 0 :=
    ⟨fun _ _ => h.total _ _⟩
  have htrans : IsTrans A2ATask fun earlier later =>
      localeCompare (later.status.timestamp.getD "") (earlier.status.timestamp.getD "") ≤ 0 :=
    ⟨fun _ _ _ hab hbc => h.trans _ _ _ hbc hab⟩
  exact List.pairwise_insertionSort _ _

/-- Whatever the tasks, the filters and the page size: the pages that follow from the first one show every task that
matches, once, the latest timestamp first, and each says how many there are. -/
theorem pages_complete (engine : A2AOperationEngine) (params : Option A2AServiceParameters)
    (localeCompare : LocaleCompare) (hcollates : Collates localeCompare) (request : A2AListTasksRequest)
    (hserved : engine.assertVersioned params = .ok ()) (hfirst : request.pageToken = none) :
    ∃ pages, PagesFrom engine params localeCompare request pages ∧
      ∃ listing : List A2ATask, pages.flatMap (·.tasks) = listing.map (shown request) ∧
        (∀ task, task ∈ listing ↔ engine.tasks.get? task.id = some task ∧ Matches request task) ∧
        (listing.map (·.id)).Nodup ∧
        (listing.Pairwise fun earlier later =>
          localeCompare (later.status.timestamp.getD "") (earlier.status.timestamp.getD "") ≤ 0) ∧
        ∀ page ∈ pages, page.totalSize = listing.length := by
  obtain ⟨pages, hpages, htasks, htotal⟩ := @pagesFrom_offset _ _ localeCompare _ 0 hserved
    (show decodePageToken request.pageToken = .ok 0 by rw [hfirst]; rfl)
  exact ⟨pages, hpages, engine.listedTasks localeCompare request, htasks, fun _ => mem_listedTasks, listedTasks_ids,
    listedTasks_sorted hcollates, htotal⟩

/-! ### Two canceled tasks -/

def canceledTask (id timestamp : String) : A2ATask where
  id := id
  status := { state := .canceled, timestamp := some timestamp }
  contextId := none
  artifacts := none
  history := none
  metadata := none

def twoTasks : A2AOperationEngine :=
  ((create streamingCard none none).writeTask (canceledTask "1" "2024-01-01")).writeTask
    (canceledTask "2" "2024-01-02")

def oneByOne : A2AListTasksRequest where
  tenant := none
  contextId := none
  status := some .canceled
  pageSize := some (-3)
  pageToken := none
  historyLength := none
  statusTimestampAfter := none
  includeArtifacts := none

theorem pages_complete_two : ∃ pages, PagesFrom twoTasks (some { a2aVersion := some "1.0", a2aExtensions := none })
      unitCollation oneByOne pages ∧
    ∃ listing : List A2ATask, pages.flatMap (·.tasks) = listing.map (shown oneByOne) ∧
      (∀ task, task ∈ listing ↔ twoTasks.tasks.get? task.id = some task ∧ Matches oneByOne task) ∧
      (listing.map (·.id)).Nodup ∧
      (listing.Pairwise fun earlier later =>
        unitCollation (later.status.timestamp.getD "") (earlier.status.timestamp.getD "") ≤ 0) ∧
      ∀ page ∈ pages, page.totalSize = listing.length :=
  pages_complete twoTasks (some { a2aVersion := some "1.0", a2aExtensions := none }) unitCollation
    collates_unitCollation oneByOne (by rfl) rfl

end A2AOperationEngine

end Cantilune
