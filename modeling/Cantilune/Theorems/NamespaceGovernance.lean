import Cantilune.ControlPlane.NamespaceRegistry

/-!
# Governance of the namespaces

A namespace with members has an admin, and once it has one only its admins change who its members are and
which roles they have.
-/

namespace Cantilune

/-! ## Admins -/

namespace StoredNamespace

def HasAdmin (stored : StoredNamespace) : Prop := ∃ actorId, stored.memberships.get? actorId = some .admin

/-- No members, or an admin among them. -/
def Governed (stored : StoredNamespace) : Prop := stored.memberships.size ≠ 0 → stored.HasAdmin

variable {stored : StoredNamespace}

theorem adminCount_eq_length (stored : StoredNamespace) :
    stored.adminCount = (stored.memberships.entries.filter fun e => e.2 = .admin).length := by
  unfold adminCount OrdMap.values
  rw [List.filter_map, List.length_map]
  rfl

theorem mem_admins {actorId : ActorId} :
    actorId ∈ (stored.memberships.entries.filter fun e => e.2 = .admin).map Prod.fst ↔
      stored.memberships.get? actorId = some .admin := by
  rw [List.mem_map]
  constructor
  · rintro ⟨⟨a, role⟩, hmem, rfl⟩
    obtain ⟨hentry, hrole⟩ := List.mem_filter.1 hmem
    have hadmin : role = .admin := by simpa using hrole
    exact hadmin ▸ OrdMap.mem_entries.1 hentry
  · intro h
    exact ⟨(actorId, .admin), List.mem_filter.2 ⟨OrdMap.mem_entries.2 h, by simp⟩, rfl⟩

theorem adminCount_ne_zero_iff : stored.adminCount ≠ 0 ↔ stored.HasAdmin := by
  rw [adminCount_eq_length, ← List.length_map (f := Prod.fst), ← Nat.pos_iff_ne_zero,
    List.length_pos_iff_exists_mem]
  exact exists_congr fun actorId => mem_admins

theorem exists_other_admin (h : 1 < stored.adminCount) (actorId : ActorId) :
    ∃ other, other ≠ actorId ∧ stored.memberships.get? other = some .admin := by
  by_contra hnone
  push Not at hnone
  have hsub : (stored.memberships.entries.filter fun e => e.2 = .admin).map Prod.fst ⊆ [actorId] := by
    intro other hother
    by_contra hne
    exact hnone other (fun heq => hne (heq ▸ List.mem_singleton_self actorId)) (mem_admins.1 hother)
  have hnodup : ((stored.memberships.entries.filter fun e => e.2 = .admin).map Prod.fst).Nodup :=
    stored.memberships.nodupKeys.sublist (List.filter_sublist.map Prod.fst)
  have hlen := (List.subperm_of_subset hnodup hsub).length_le
  rw [List.length_map, ← adminCount_eq_length, List.length_singleton] at hlen
  omega

theorem HasAdmin.of_set {actorId other : ActorId} {role : NamespaceRbacRole} (hne : other ≠ actorId)
    (h : stored.memberships.get? other = some .admin) :
    HasAdmin { stored with memberships := stored.memberships.set actorId role } :=
  ⟨other, by rw [OrdMap.get?_set_ne _ _ hne]; exact h⟩

end StoredNamespace

/-! ## One call -/

namespace NamespaceRegistry

variable {localeCompare : LocaleCompare} {s : NamespaceRegistry}

theorem registerNamespace_ok {input : RegisterNamespaceInput} {record : NamespaceRecord}
    (h : (s.registerNamespace localeCompare input).1 = .ok record) :
    (∀ stored, s.get? input.namespaceId = some stored → stored.memberships.size = 0) ∧
      ∃ stored, (s.registerNamespace localeCompare input).2 = s.set input.namespaceId stored ∧
        stored.memberships = OrdMap.empty.set input.actorId .admin := by
  unfold registerNamespace at h ⊢
  split at h
  · cases h
  · split at h
    · cases h
    · rename_i hsize
      refine ⟨?_, ?_⟩
      · intro stored hget
        rw [hget] at hsize
        simpa using hsize
      · rw [if_neg hsize]
        exact ⟨_, rfl, rfl⟩

theorem registerNamespace_error {input : RegisterNamespaceInput} {violation : ControlPlaneViolation}
    (h : (s.registerNamespace localeCompare input).1 = .error violation) :
    (s.registerNamespace localeCompare input).2 = s := by
  unfold registerNamespace at h ⊢
  split at h
  · rfl
  · split at h
    · rename_i hsize
      rw [if_pos hsize]
    · cases h

theorem assignRefused_eq_none {stored : StoredNamespace} {input : AssignNamespaceRoleInput}
    {role : NamespaceRbacRole} (h : assignRefused stored input role = none) :
    (stored.HasAdmin → stored.memberships.get? input.assignedBy = some .admin) ∧
      StoredNamespace.HasAdmin { stored with memberships := stored.memberships.set input.actorId role } := by
  unfold assignRefused at h
  split at h
  · cases h
  rename_i hfirst
  split at h
  · cases h
  rename_i hadmin
  split at h
  · cases h
  rename_i hlast
  refine ⟨?_, ?_⟩
  · intro hhas
    by_contra hnot
    exact hadmin ⟨StoredNamespace.adminCount_ne_zero_iff.2 hhas, hnot⟩
  · by_cases hrole : role = .admin
    · exact ⟨input.actorId, by rw [OrdMap.get?_set_self, hrole]⟩
    · have hsome : stored.adminCount ≠ 0 := fun hzero => hfirst ⟨hzero, hrole⟩
      by_cases hself : stored.memberships.get? input.actorId = some .admin
      · have hmore : 1 < stored.adminCount := by
          have hone : stored.adminCount ≠ 1 := fun hone => hlast ⟨hself, hrole, hone⟩
          omega
        obtain ⟨other, hne, hother⟩ := StoredNamespace.exists_other_admin hmore input.actorId
        exact .of_set hne hother
      · obtain ⟨other, hother⟩ := StoredNamespace.adminCount_ne_zero_iff.1 hsome
        exact .of_set (fun heq => hself (heq ▸ hother)) hother

theorem assignRole_ok {input : AssignNamespaceRoleInput} {record : NamespaceRecord}
    (h : (s.assignRole localeCompare input).1 = .ok record) :
    ∃ stored role, s.get? input.namespaceId = some stored ∧ assignRefused stored input role = none ∧
      (s.assignRole localeCompare input).2 = s.set input.namespaceId
        { stored with memberships := stored.memberships.set input.actorId role } := by
  unfold assignRole at h ⊢
  split at h
  · cases h
  · rename_i role hrole
    split at h
    · cases h
    · rename_i stored hstored
      split at h
      · cases h
      · rename_i hrefused
        exact ⟨stored, role, hstored, hrefused, rfl⟩

theorem assignRole_error {input : AssignNamespaceRoleInput} {violation : ControlPlaneViolation}
    (h : (s.assignRole localeCompare input).1 = .error violation) :
    (s.assignRole localeCompare input).2 = s := by
  unfold assignRole at h ⊢
  split at h
  · rfl
  · split at h
    · rfl
    · split at h
      · rfl
      · cases h

end NamespaceRegistry

namespace NamespaceCall

variable {localeCompare : LocaleCompare} {s t : NamespaceRegistry} {call : NamespaceCall}

theorem step_cases (h : Step localeCompare s call t) :
    ((∃ violation, (call.run localeCompare s).1 = .error violation) ∧ t = s) ∨
      ((∃ record, (call.run localeCompare s).1 = .ok record) ∧ ∃ stored, t = s.set call.namespaceId stored ∧
        stored.HasAdmin ∧ ∀ before, s.get? call.namespaceId = some before → before.HasAdmin →
          before.memberships.get? call.actor = some .admin) := by
  cases h
  cases hrun : (call.run localeCompare s).1 with
  | error violation =>
      refine .inl ⟨⟨_, rfl⟩, ?_⟩
      cases call with
      | registerNamespace input => exact NamespaceRegistry.registerNamespace_error hrun
      | assignRole input => exact NamespaceRegistry.assignRole_error hrun
  | ok record =>
      refine .inr ⟨⟨_, rfl⟩, ?_⟩
      cases call with
      | registerNamespace input =>
          obtain ⟨hempty, stored, hafter, hmembers⟩ := NamespaceRegistry.registerNamespace_ok hrun
          refine ⟨stored, hafter, ⟨input.actorId, by rw [hmembers, OrdMap.get?_set_self]⟩, ?_⟩
          intro before hbefore hadmin
          obtain ⟨actorId, hactor⟩ := hadmin
          have hmem := OrdMap.mem_entries.2 hactor
          rw [List.length_eq_zero_iff.1 (hempty before hbefore)] at hmem
          cases hmem
      | assignRole input =>
          obtain ⟨stored, role, hstored, hrefused, hafter⟩ := NamespaceRegistry.assignRole_ok hrun
          obtain ⟨hactor, hadmin⟩ := NamespaceRegistry.assignRefused_eq_none hrefused
          refine ⟨_, hafter, hadmin, ?_⟩
          intro before hbefore
          cases hstored.symm.trans hbefore
          exact hactor

theorem step_governed (h : Step localeCompare s call t) (hs : s.ForAll fun _ stored => stored.Governed) :
    t.ForAll fun _ stored => stored.Governed := by
  rcases step_cases h with ⟨_, rfl⟩ | ⟨_, stored, rfl, hadmin, _⟩
  · exact hs
  · intro id stored' hget
    rw [OrdMap.get?_set] at hget
    split at hget
    · cases hget
      exact fun _ => hadmin
    · exact hs id stored' hget

theorem step_hasAdmin {id : NamespaceId} (h : Step localeCompare s call t)
    (hs : ∃ stored, s.get? id = some stored ∧ stored.HasAdmin) :
    ∃ stored, t.get? id = some stored ∧ stored.HasAdmin := by
  rcases step_cases h with ⟨_, rfl⟩ | ⟨_, stored, rfl, hadmin, _⟩
  · exact hs
  · by_cases hid : id = call.namespaceId
    · exact ⟨stored, by rw [hid, OrdMap.get?_set_self], hadmin⟩
    · rw [OrdMap.get?_set_ne _ _ hid]
      exact hs

def Touches (localeCompare : LocaleCompare) (s : NamespaceRegistry) (call : NamespaceCall)
    (t : NamespaceRegistry) (id : NamespaceId) : Prop :=
  (call.namespaceId = id ∧ ∃ record, (call.run localeCompare s).1 = .ok record) ∨ t.get? id ≠ s.get? id

theorem step_actor {id : NamespaceId} {stored : StoredNamespace} (h : Step localeCompare s call t)
    (htouches : Touches localeCompare s call t id) (hget : s.get? id = some stored) (hadmin : stored.HasAdmin) :
    stored.memberships.get? call.actor = some .admin := by
  rcases step_cases h with ⟨⟨violation, herror⟩, rfl⟩ | ⟨_, after, rfl, _, hactor⟩
  · rcases htouches with ⟨_, record, hok⟩ | hchange
    · rw [herror] at hok
      cases hok
    · exact absurd rfl hchange
  · have hid : call.namespaceId = id := by
      rcases htouches with ⟨hid, _⟩ | hchange
      · exact hid
      · by_contra hne
        exact hchange (OrdMap.get?_set_ne _ _ (Ne.symm hne))
    cases hid
    exact hactor stored hget hadmin

end NamespaceCall

theorem NamespaceRegistry.create_governed :
    NamespaceRegistry.create.ForAll fun _ stored => stored.Governed := by
  intro id stored hget
  unfold NamespaceRegistry.create at hget
  rw [OrdMap.get?_set] at hget
  split at hget
  · cases hget
    intro hsize
    exact absurd rfl hsize
  · rw [OrdMap.get?_empty] at hget
    cases hget

/-- In every run of the registry each namespace with members has an admin; and from the moment a namespace
has one, whoever makes a call that succeeds on it or changes it is an admin of it at that moment. -/
theorem namespaces_governed_by_admins (localeCompare : LocaleCompare) {calls : List NamespaceCall}
    {s : NamespaceRegistry} (r : Run (NamespaceCall.Step localeCompare) .create calls s) :
    (∀ id stored, s.get? id = some stored → stored.memberships.size ≠ 0 → stored.HasAdmin) ∧
      ∀ id stored, s.get? id = some stored → stored.HasAdmin →
        ∀ later m call t, Run (NamespaceCall.Step localeCompare) s later m →
          NamespaceCall.Step localeCompare m call t → NamespaceCall.Touches localeCompare m call t id →
            ∃ current, m.get? id = some current ∧ current.memberships.get? call.actor = some .admin := by
  refine ⟨?_, ?_⟩
  · exact r.invariant (I := fun s => s.ForAll fun _ stored => stored.Governed)
      (fun _ _ _ => NamespaceCall.step_governed) NamespaceRegistry.create_governed
  · intro id stored hget hadmin later m call t hlater hstep htouches
    obtain ⟨current, hcurrent, hhas⟩ := hlater.invariant
      (I := fun m => ∃ stored, m.get? id = some stored ∧ stored.HasAdmin)
      (fun _ _ _ => NamespaceCall.step_hasAdmin) ⟨stored, hget, hadmin⟩
    exact ⟨current, hcurrent, NamespaceCall.step_actor hstep htouches hcurrent hhas⟩

/-- The first call registers a namespace, the second is its admin's. -/
theorem namespaces_governed_by_admins_team :
    ∃ s, Run (NamespaceCall.Step fun a b => if a < b then -1 else if b < a then 1 else 0) .create
        [.registerNamespace { namespaceId := "team", displayName := "Team", actorId := "ada" },
          .assignRole { namespaceId := "team", actorId := "bob", role := "member", assignedBy := "ada" }] s ∧
      ∀ id stored, s.get? id = some stored → stored.memberships.size ≠ 0 → stored.HasAdmin :=
  ⟨_, .cons rfl (.cons rfl (.nil _)), (namespaces_governed_by_admins _ (.cons rfl (.cons rfl (.nil _)))).1⟩

end Cantilune
