import Cantilune.Lemmas.RaftRequests

/-!
# Writer fencing

Any number of coordinators share one store, and their requests and the expiry of leases come in any order. Every
write of a coordinator compares the key that names the writer; once another coordinator has put its name there,
the comparison fails for good.
-/

namespace Cantilune

/-! ## Coordinators side by side -/

namespace RaftWriters

open Program RaftDurableCoordinator

variable {ι : Type} [DecidableEq ι] (localeCompare : LocaleCompare) (writers : ι → RaftDurableCoordinator)

abbrev State (ι : Type) := System ι (KvRequest StoredValue) KvRequest.Resp DurableThrown (Option DurableResult)
  (MemoryRaftKv StoredValue)

def Step : State ι → SystemLabel ι RaftCall → State ι → Prop :=
  SystemStep (MemoryRaftKv.Acts localeCompare) fun client call => (writers client).run localeCompare call

def start (kv : MemoryRaftKv StoredValue) : State ι := { store := kv, running := fun _ => none }

def NotCreated (a : ι) (labels : List (SystemLabel ι RaftCall)) : Prop :=
  ∀ initial leaseTtlSeconds, .invoke a (.create initial leaseTtlSeconds) ∉ labels

/-- Once the coordinator `b` has initialized, no step of the coordinator `a`, which is older, changes data. -/
def Fenced («namespace» : String) (a b : ι) : Prop :=
  ∀ kv before between after s₁ s₂ s₃ s₄ initial leaseTtlSeconds, DataUnleased «namespace» kv →
    Run (Step localeCompare writers) (start kv) before s₁ → s₁.running a = none →
    Run (Step localeCompare writers) s₁ between s₂ → .invoke b (.create initial leaseTtlSeconds) ∈ between →
    s₂.running b = none → Run (Step localeCompare writers) s₂ after s₃ → NotCreated a (between ++ after) →
    Step localeCompare writers s₃ (.step a) s₄ → SameData «namespace» s₃.store s₄.store

variable {localeCompare writers} {«namespace» : String} {a b : ι} {s t : State ι} {l : SystemLabel ι RaftCall}

theorem encodeLease_inj {owner token owner' token' : String} :
    encodeLease owner token = encodeLease owner' token' ↔ (owner, token) = (owner', token') := by
  simp [encodeLease]

/-- What the clients ask, and the methods of `a` where it is not created anew. -/
def Request (writers : ι → RaftDurableCoordinator) (a client : ι) (r : KvRequest StoredValue) : Prop :=
  (writers client).InstanceRequest r ∧ (client = a → (writers a).MethodRequest r)

theorem allAsk_instance (hstep : Step localeCompare writers s l t)
    (h : s.AllAsk fun client => (writers client).InstanceRequest) :
    t.AllAsk fun client => (writers client).InstanceRequest :=
  allAsk_step hstep (fun _ call _ => asks_run call) h

theorem dataUnleased_step (hns : ∀ i, (writers i).namespace = «namespace») (hstep : Step localeCompare writers s l t)
    (hask : s.AllAsk fun client => (writers client).InstanceRequest) (h : DataUnleased «namespace» s.store) :
    DataUnleased «namespace» t.store := by
  refine store_step hstep hask (fun client kv r resp kv' hr hact hkv => ?_) h
  rw [← hns client] at hkv ⊢
  exact dataUnleased_acts hr hact hkv

theorem allAsk_request (hcreate : ∀ initial leaseTtlSeconds, l ≠ .invoke a (.create initial leaseTtlSeconds))
    (hstep : Step localeCompare writers s l t) (h : s.AllAsk (Request writers a)) : t.AllAsk (Request writers a) := by
  refine allAsk_step hstep (fun client call hl => ?_) h
  by_cases hclient : client = a
  · subst hclient
    cases call with
    | create initial leaseTtlSeconds => exact absurd hl (hcreate initial leaseTtlSeconds)
    | call d =>
        refine Asks.bind (Asks.mono (fun r hr => ?_) (asks_call d)) fun _ => trivial
        exact ⟨hr.instanceRequest, fun _ => hr⟩
  · exact Asks.mono (fun r hr => ⟨hr, fun heq => absurd heq hclient⟩) (asks_run call)

theorem deposed_step (hns : ∀ i, (writers i).namespace = «namespace»)
    (hname : ∀ i, i ≠ a → ((writers i).leaseOwner, (writers i).leaseToken) ≠
      ((writers a).leaseOwner, (writers a).leaseToken))
    (hstep : Step localeCompare writers s l t) (hask : s.AllAsk (Request writers a))
    (h : DataUnleased «namespace» s.store ∧ (writers a).Deposed s.store) : (writers a).Deposed t.store := by
  have hboth : DataUnleased «namespace» t.store ∧ (writers a).Deposed t.store := by
    refine store_step (I := fun kv => DataUnleased «namespace» kv ∧ (writers a).Deposed kv) hstep hask
      (fun client kv r resp kv' hr hact hkv => ?_) h
    obtain ⟨hunleased, hdeposed⟩ := hkv
    refine ⟨?_, ?_⟩
    · rw [← hns client] at hunleased ⊢
      exact dataUnleased_acts hr.1 hact hunleased
    · by_cases hclient : client = a
      · rw [← hns a] at hunleased
        exact (sameData_acts (hr.2 hclient) hact hunleased hdeposed).2
      · refine deposed_acts ((hns client).trans (hns a).symm) ?_ hr.1 hact hdeposed
        exact fun heq => hname client hclient (encodeLease_inj.1 heq)
  exact hboth.2

/-- The invariant of the steps after the creation of `a`. -/
structure Created (writers : ι → RaftDurableCoordinator) («namespace» : String) (a : ι) (s : State ι) : Prop where
  unleased : DataUnleased «namespace» s.store
  asks : s.AllAsk (Request writers a)

theorem created_step (hns : ∀ i, (writers i).namespace = «namespace»)
    (hcreate : ∀ initial leaseTtlSeconds, l ≠ .invoke a (.create initial leaseTtlSeconds))
    (hstep : Step localeCompare writers s l t) (h : Created writers «namespace» a s) :
    Created writers «namespace» a t where
  unleased := dataUnleased_step hns hstep (fun client p hp => Asks.mono (fun _ hr => hr.1) (h.asks client p hp)) h.unleased
  asks := allAsk_request hcreate hstep h.asks

/-- Coordinators whose owner or token differ from those of `a` fence it off. -/
theorem writer_fencing (hns : ∀ i, (writers i).namespace = «namespace») (hab : a ≠ b)
    (hname : ∀ i, i ≠ a → ((writers i).leaseOwner, (writers i).leaseToken) ≠
      ((writers a).leaseOwner, (writers a).leaseToken)) : Fenced localeCompare writers «namespace» a b := by
  intro kv before between after s₁ s₂ s₃ s₄ initial leaseTtlSeconds hkv r₁ hcreated r₂ hinvoked hb r₃ hnot hstep
  have hnew : ∀ l, l ∈ between ++ after → ∀ initial leaseTtlSeconds,
      l ≠ .invoke a (.create initial leaseTtlSeconds) := by
    rintro l hl initial leaseTtlSeconds rfl
    exact hnot initial leaseTtlSeconds hl
  have hstart : DataUnleased «namespace» s₁.store ∧ s₁.AllAsk fun client => (writers client).InstanceRequest := by
    refine Run.invariant (I := fun s => DataUnleased «namespace» s.store ∧
      s.AllAsk fun client => (writers client).InstanceRequest) ?_ r₁ ⟨hkv, ?_⟩
    · rintro s l t hstep ⟨hunleased, hask⟩
      exact ⟨dataUnleased_step hns hstep hask hunleased, allAsk_instance hstep hask⟩
    · intro client p hp
      cases hp
  have hcreated₁ : Created writers «namespace» a s₁ := by
    refine ⟨hstart.1, fun client p hp => ?_⟩
    refine Asks.mono (fun r hr => ⟨hr, fun heq => ?_⟩) (hstart.2 client p hp)
    rw [heq, hcreated] at hp
    cases hp
  have hcreatedStep : ∀ u l v, l ∈ between ++ after → Step localeCompare writers u l v →
      Created writers «namespace» a u → Created writers «namespace» a v :=
    fun u l v hl => created_step hns (hnew l hl)
  have hdeposedStep : ∀ u l v, Step localeCompare writers u l v → Created writers «namespace» a u →
      (writers a).Deposed u.store → (writers a).Deposed v.store :=
    fun u l v hstep hu hdeposed => deposed_step hns hname hstep hu.asks ⟨hu.unleased, hdeposed⟩
  have hcreated₂ : Created writers «namespace» a s₂ :=
    Run.invariant_of_mem r₂ (fun u l v hl => hcreatedStep u l v (List.mem_append_left _ hl)) hcreated₁
  -- `b` does not end without the transaction that puts its name in the place of that of `a`
  have hdeposed₂ : (writers a).Deposed s₂.store := by
    obtain ⟨pre, post, hsplit⟩ := List.append_of_mem hinvoked
    rw [hsplit] at r₂
    obtain ⟨m, hpre, hrest⟩ := Run.append_iff.1 r₂
    obtain ⟨m', hinvoke, hpost⟩ := Run.cons_iff.1 hrest
    have hmem : ∀ l ∈ pre ++ .invoke b (.create initial leaseTtlSeconds) :: post, l ∈ between ++ after := by
      intro l hl
      rw [hsplit]
      exact List.mem_append_left _ hl
    have hm : Created writers «namespace» a m :=
      Run.invariant_of_mem hpre (fun u l v hl => hcreatedStep u l v (hmem l (List.mem_append_left _ hl))) hcreated₁
    have hm' : Created writers «namespace» a m' :=
      hcreatedStep _ _ _ (hmem _ (List.mem_append_right _ List.mem_cons_self)) hinvoke hm
    have hpostMem : ∀ l ∈ post, l ∈ between ++ after := fun l hl =>
      hmem l (List.mem_append_right _ (List.mem_cons_of_mem _ hl))
    cases hinvoke with
    | invoke idle =>
        refine holds_of_must (J := Created writers «namespace» a) hpost (Function.update_self _ _ _)
          (must_create initial leaseTtlSeconds) hb ?_ (fun u l v hl => hcreatedStep u l v (hpostMem l hl))
          (fun u l v _ => hdeposedStep u l v) hm'
        intro s r resp t hinstalls hact
        refine deposed_of_installs ((hns b).trans (hns a).symm) ?_ hinstalls hact
        exact fun heq => hname b (Ne.symm hab) (encodeLease_inj.1 heq)
  have hreached : Created writers «namespace» a s₃ ∧ (writers a).Deposed s₃.store := by
    refine Run.invariant_of_mem (I := fun u => Created writers «namespace» a u ∧ (writers a).Deposed u.store) r₃ ?_
      ⟨hcreated₂, hdeposed₂⟩
    rintro u l v hl hstep ⟨hu, hdeposed⟩
    exact ⟨hcreatedStep u l v (List.mem_append_right _ hl) hstep hu, hdeposedStep u l v hstep hu hdeposed⟩
  cases hstep with
  | @ask _ r next resp store busy head =>
      have hmethod : (writers a).MethodRequest r := (hreached.1.asks a _ busy).1.2 rfl
      have hunleased := hreached.1.unleased
      rw [← hns a] at hunleased ⊢
      exact (sameData_acts hmethod head hunleased hreached.2).1
  | done => exact fun key _ => rfl
  | fail => exact fun key _ => rfl

/-! ## A race for the head -/

def created : List (SystemLabel Bool RaftCall × ℚ) :=
  (.invoke true (.create (some (emptySnapshot "s0" "e1")) 30), 0) :: List.replicate 4 (.step true, 0)

/-- It moves the head and finds that it is the writer; before its transaction the other one initializes. -/
def raced : List (SystemLabel Bool RaftCall × ℚ) :=
  (.invoke true (.call (.compareAndSwapHead "s0" (emptySnapshot "s1" "e1"))), 0) :: List.replicate 3 (.step true, 0) ++
    (.invoke false (.create none 30), 0) :: List.replicate 3 (.step false, 0)

def next (writers : Bool → RaftDurableCoordinator) : State Bool → SystemLabel Bool RaftCall × ℚ → Option (State Bool) :=
  System.next? (MemoryRaftKv.run fun _ _ => 0) fun client call => (writers client).run (fun _ _ => 0) call

def storedHead (writers : Bool → RaftDurableCoordinator) (s : State Bool) : Option StoredValue :=
  (s.store.store.get? ((writers true).key .head)).map (·.value)

def raceOutcome (writers : Bool → RaftDurableCoordinator) : Option (Option StoredValue × Option StoredValue) :=
  ((created.foldlM (next writers) (start .empty)).filter fun s => (s.running true).isNone).bind fun s₁ =>
    ((raced.foldlM (next writers) s₁).filter fun s => (s.running false).isNone).bind fun s₂ =>
      (next writers s₂ (.step true, 0)).map fun s₄ => (storedHead writers s₂, storedHead writers s₄)

theorem race_runs {writers : Bool → RaftDurableCoordinator} {heads : Option StoredValue × Option StoredValue}
    (h : raceOutcome writers = some heads) : ∃ s₁ s₂ s₄,
      Run (Step (fun _ _ => 0) writers) (start .empty) (created.map Prod.fst) s₁ ∧ s₁.running true = none ∧
      Run (Step (fun _ _ => 0) writers) s₁ (raced.map Prod.fst) s₂ ∧ s₂.running false = none ∧
      Step (fun _ _ => 0) writers s₂ (.step true) s₄ ∧
      heads = (storedHead writers s₂, storedHead writers s₄) := by
  simp only [raceOutcome, Option.bind_eq_some_iff, Option.filter_eq_some_iff, Option.map_eq_some_iff,
    Option.isNone_iff_eq_none] at h
  obtain ⟨s₁, ⟨h₁, hidle₁⟩, s₂, ⟨h₂, hidle₂⟩, s₄, h₄, rfl⟩ := h
  exact ⟨s₁, s₂, s₄, run_of_next h₁, hidle₁, run_of_next h₂, hidle₂, systemStep_of_next h₄, rfl⟩

theorem storedHead_eq {writers : Bool → RaftDurableCoordinator} {s t : State Bool}
    (h : SameData (writers true).namespace s.store t.store) : storedHead writers t = storedHead writers s := by
  unfold storedHead
  rw [h _ (DataKey.of_key (by decide))]

theorem dataUnleased_empty («namespace» : String) : DataUnleased «namespace» .empty := by
  intro key stored _ hstored
  cases hstored

theorem raced_installs : .invoke false (.create none 30) ∈ raced.map Prod.fst := by
  simp [raced]

theorem raced_notCreated : NotCreated true (raced.map Prod.fst ++ []) := by
  intro initial leaseTtlSeconds
  simp [raced]

/-- With a token of its own the younger coordinator keeps the head where it is. -/
theorem writer_fencing_race : ∃ s₂ s₄ : State Bool,
    Step (fun _ _ => 0) (fun client => ⟨"cantilune", "writer", if client then "t1" else "t2"⟩) s₂ (.step true) s₄ ∧
    storedHead (fun _ => ⟨"cantilune", "writer", "t1"⟩) s₂ = some (.text "s0") ∧
    SameData "cantilune" s₂.store s₄.store := by
  obtain ⟨s₁, s₂, s₄, r₁, hcreated, r₂, hb, hstep, hheads⟩ := @race_runs
    (fun client => ⟨"cantilune", "writer", if client then "t1" else "t2"⟩) (some (.text "s0"), some (.text "s0"))
    (by decide +kernel)
  refine ⟨s₂, s₄, hstep, (congrArg Prod.fst hheads).symm, ?_⟩
  exact @writer_fencing Bool _ (fun _ _ => 0) (fun client => ⟨"cantilune", "writer", if client then "t1" else "t2"⟩)
    "cantilune" true false (fun _ => rfl) (by decide) (by decide) .empty _ _ _ s₁ s₂ s₂ s₄ none 30
    (dataUnleased_empty _) r₁ hcreated r₂ raced_installs hb (.nil s₂) raced_notCreated hstep

/-- With one owner and one token for both, the store names the older coordinator as well, and its transaction
moves the head. -/
theorem shared_name_not_fenced :
    ¬ Fenced (fun _ _ => 0) (fun _ : Bool => ⟨"cantilune", "writer", "t1"⟩) "cantilune" true false := by
  intro hfenced
  obtain ⟨s₁, s₂, s₄, r₁, hcreated, r₂, hb, hstep, hheads⟩ := @race_runs
    (fun _ => ⟨"cantilune", "writer", "t1"⟩) (some (.text "s0"), some (.text "s1")) (by decide +kernel)
  have hsame := hfenced .empty _ _ _ s₁ s₂ s₂ s₄ none 30 (dataUnleased_empty _) r₁ hcreated r₂ raced_installs hb
    (.nil s₂) raced_notCreated hstep
  have hhead := @storedHead_eq (fun _ => ⟨"cantilune", "writer", "t1"⟩) s₂ s₄ hsame
  have hmoved : some (StoredValue.text "s1") = some (.text "s0") :=
    (congrArg Prod.snd hheads).trans (hhead.trans (congrArg Prod.fst hheads).symm)
  exact absurd hmoved (by decide)

end RaftWriters

end Cantilune
