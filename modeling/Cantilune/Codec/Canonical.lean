import Mathlib.Data.List.Sort
import Cantilune.Base.JsString
import Cantilune.Core.Change
import Cantilune.Core.Snapshot

/-!
# Canonical equality of snapshots

The comparison by which replay checks a stored snapshot, and the unlogged advances of the head, by
observations or by an epoch, that it reproduces. The order of keys is the collation of the host, a
parameter here; nothing below depends on it.
-/

namespace Cantilune

/-! ## Comparing collections -/

section Comparison
variable (localeCompare : LocaleCompare)

def sortedEntries {V : Type} (m : OrdMap String V) : List (String × V) :=
  m.entries.insertionSort fun a b => localeCompare a.1 b.1 ≤ 0

def mapEntitiesEqual {V : Type} (left right : OrdMap String V) (compare : V → V → Bool) : Bool :=
  let leftEntries := sortedEntries localeCompare left
  let rightEntries := sortedEntries localeCompare right
  leftEntries.length = rightEntries.length &&
    (leftEntries.zip rightEntries).all fun e => e.1.1 = e.2.1 && compare e.1.2 e.2.2

/-- Neither the namespace nor the manifest of a participant is compared. -/
def compareParticipant (left right : Participant) : Bool :=
  left.actorId = right.actorId && left.kind = right.kind && left.status = right.status

def compareArtifact (left right : WorkArtifact) : Bool :=
  left.artifactId = right.artifactId && left.kind = right.kind && left.contentRef = right.contentRef &&
    left.lifecycle = right.lifecycle && left.owner.actorId = right.owner.actorId &&
    left.owner.kind = right.owner.kind

def compareCapability (left right : ScopedCapability) : Bool :=
  left.capabilityId = right.capabilityId && left.kind = right.kind && left.holder = right.holder &&
    left.scope = right.scope

/-- The members, in the order of the collation, separated by commas. -/
def joinedMembers (participants : List ActorId) : String :=
  ",".intercalate (participants.insertionSort fun a b => localeCompare a b ≤ 0)

def compareSession (left right : CommunicationSession) : Bool :=
  left.sessionId = right.sessionId && left.controller = right.controller &&
    left.visibility = right.visibility &&
    joinedMembers localeCompare left.participants = joinedMembers localeCompare right.participants

def compareLink (left right : CollaborationLink) : Bool :=
  left.linkId = right.linkId && left.kind = right.kind && left.from = right.from && left.to = right.to

/-- World content compared field by field. Namespaces, transcripts and access requests are not looked at. -/
def snapshotsCanonicallyEqual (left right : CollaborationSnapshot) : Bool :=
  left.epochId = right.epochId && left.auditTail = right.auditTail &&
    left.retiredEntities = right.retiredEntities &&
    mapEntitiesEqual localeCompare left.participants right.participants compareParticipant &&
    mapEntitiesEqual localeCompare left.artifacts right.artifacts compareArtifact &&
    mapEntitiesEqual localeCompare left.capabilities right.capabilities compareCapability &&
    mapEntitiesEqual localeCompare left.sessions right.sessions (compareSession localeCompare) &&
    mapEntitiesEqual localeCompare left.links right.links compareLink &&
    left.heartbeatLog = right.heartbeatLog && left.policyContext = right.policyContext

/-! ## Unlogged advances -/

def appendObservations (snapshot : CollaborationSnapshot) (entries : List ObservationEntry) :
    CollaborationSnapshot :=
  entries.foldl (fun s e => appendObservation s e.source e.payloadRef e.receivedAt) snapshot

def withEpoch (snapshot : CollaborationSnapshot) (epochId : EpochId) : CollaborationSnapshot :=
  { snapshot with epochId }

def isObservationOnlyAdvance («from» «to» : CollaborationSnapshot) : Bool :=
  if «to».auditTail.length ≤ «from».auditTail.length then false
  else
    let rebuilt := appendObservations «from» («to».auditTail.drop «from».auditTail.length)
    snapshotsCanonicallyEqual localeCompare (withSnapshotRef rebuilt «to».snapshotRef) «to»

def isEpochOnlyAdvance («from» «to» : CollaborationSnapshot) : Bool :=
  if «from».snapshotRef = «to».snapshotRef ∨ «from».epochId = «to».epochId then false
  else snapshotsCanonicallyEqual localeCompare «from» (withEpoch «to» «from».epochId)

def isObservationAndEpochOnlyAdvance («from» «to» : CollaborationSnapshot) : Bool :=
  if «from».snapshotRef = «to».snapshotRef ∨ «from».epochId = «to».epochId ∨
      «to».auditTail.length ≤ «from».auditTail.length then false
  else
    let rebuilt := appendObservations «from» («to».auditTail.drop «from».auditTail.length)
    snapshotsCanonicallyEqual localeCompare (withEpoch (withSnapshotRef rebuilt «to».snapshotRef) «to».epochId)
      «to»

def isVerifiableUnloggedAdvance («from» «to» : CollaborationSnapshot) : Bool :=
  isObservationOnlyAdvance localeCompare «from» «to» || isEpochOnlyAdvance localeCompare «from» «to» ||
    isObservationAndEpochOnlyAdvance localeCompare «from» «to»

def changeContinuesChain (previous change : CoordinationChange)
    (resolve : SnapshotRef → Option CollaborationSnapshot) : Bool :=
  if change.beforeRef = previous.afterRef then true
  else
    match resolve previous.afterRef, resolve change.beforeRef with
    | some «from», some «to» => isVerifiableUnloggedAdvance localeCompare «from» «to»
    | _, _ => false

end Comparison

/-! ## What canonical equality says -/

variable {localeCompare : LocaleCompare} {V : Type} {m n : OrdMap String V} {compare : V → V → Bool}
  {s t u : CollaborationSnapshot}

theorem sortedEntries_perm (m : OrdMap String V) : (sortedEntries localeCompare m).Perm m.entries :=
  List.perm_insertionSort _ _

theorem mem_sortedEntries {k : String} {v : V} : (k, v) ∈ sortedEntries localeCompare m ↔ m.get? k = some v :=
  (sortedEntries_perm m).mem_iff.trans OrdMap.mem_entries

theorem exists_zip_of_mem {α β : Type} {p : α × β → Bool} {xs : List α} {ys : List β}
    (hlen : xs.length = ys.length) (h : (xs.zip ys).all p = true) :
    (∀ x ∈ xs, ∃ y ∈ ys, p (x, y) = true) ∧ ∀ y ∈ ys, ∃ x ∈ xs, p (x, y) = true := by
  induction xs generalizing ys with
  | nil =>
      cases ys with
      | nil => simp
      | cons y ys => simp at hlen
  | cons x xs ih =>
      cases ys with
      | nil => simp at hlen
      | cons y ys =>
          simp only [List.zip_cons_cons, List.all_cons, Bool.and_eq_true] at h
          obtain ⟨hleft, hright⟩ := ih (by simpa using hlen) h.2
          constructor
          · rintro z hz
            rcases List.mem_cons.1 hz with rfl | hz
            · exact ⟨y, by simp, h.1⟩
            · obtain ⟨w, hw, hp⟩ := hleft z hz
              exact ⟨w, by simp [hw], hp⟩
          · rintro z hz
            rcases List.mem_cons.1 hz with rfl | hz
            · exact ⟨x, by simp, h.1⟩
            · obtain ⟨w, hw, hp⟩ := hright z hz
              exact ⟨w, by simp [hw], hp⟩

/-- Maps that compare equal have the same keys, with values that the comparison does not tell apart. -/
theorem mapEntitiesEqual_get? (h : mapEntitiesEqual localeCompare m n compare = true) (k : String) :
    Option.Rel (fun v w => compare v w = true) (m.get? k) (n.get? k) := by
  simp only [mapEntitiesEqual, Bool.and_eq_true, decide_eq_true_eq] at h
  obtain ⟨hleft, hright⟩ := exists_zip_of_mem h.1 h.2
  have hforward : ∀ v, m.get? k = some v → ∃ w, n.get? k = some w ∧ compare v w = true := by
    intro v hv
    obtain ⟨⟨k', w⟩, hw, hp⟩ := hleft (k, v) (mem_sortedEntries.2 hv)
    simp only [Bool.and_eq_true, decide_eq_true_eq] at hp
    obtain ⟨rfl, hp⟩ := hp
    exact ⟨w, mem_sortedEntries.1 hw, hp⟩
  have hback : ∀ w, n.get? k = some w → ∃ v, m.get? k = some v := by
    intro w hw
    obtain ⟨⟨k', v⟩, hv, hp⟩ := hright (k, w) (mem_sortedEntries.2 hw)
    simp only [Bool.and_eq_true, decide_eq_true_eq] at hp
    obtain ⟨rfl, _⟩ := hp
    exact ⟨v, mem_sortedEntries.1 hv⟩
  cases hm : m.get? k with
  | some v =>
      obtain ⟨w, hw, hp⟩ := hforward v hm
      rw [hw]
      exact .some hp
  | none =>
      cases hn : n.get? k with
      | none => exact .none
      | some w =>
          obtain ⟨v, hv⟩ := hback w hn
          exact absurd (hm.symm.trans hv) (by simp)

/-! ### Comparing entities -/

theorem compareParticipant_eq {p q : Participant} (h : compareParticipant p q = true)
    (hnamespace : p.namespaceId = q.namespaceId) (hmanifest : p.manifestRef = q.manifestRef) : p = q := by
  cases p
  cases q
  simp_all [compareParticipant]

theorem compareArtifact_eq {a b : WorkArtifact} (h : compareArtifact a b = true) : a = b := by
  obtain ⟨_, _, _, ⟨_, _⟩, _⟩ := a
  obtain ⟨_, _, _, ⟨_, _⟩, _⟩ := b
  simp_all [compareArtifact]

theorem compareCapability_eq {c d : ScopedCapability} (h : compareCapability c d = true) : c = d := by
  cases c
  cases d
  simp_all [compareCapability]

theorem compareLink_eq {l k : CollaborationLink} (h : compareLink l k = true) : l = k := by
  cases l
  cases k
  simp_all [compareLink]

theorem compareSession_eq {c d : CommunicationSession} (h : compareSession localeCompare c d = true)
    (hmembers : c.participants = d.participants) : c = d := by
  cases c
  cases d
  simp_all [compareSession]

/-! ### Field by field -/

/-- Agreement on what is compared, the epoch and the audit tail apart. -/
structure ComparedAlike (localeCompare : LocaleCompare) (s t : CollaborationSnapshot) : Prop where
  retired : s.retiredEntities = t.retiredEntities
  participants : ∀ id, Option.Rel (fun p q => compareParticipant p q = true) (s.participants.get? id)
    (t.participants.get? id)
  artifacts : ∀ id, Option.Rel (fun a b => compareArtifact a b = true) (s.artifacts.get? id) (t.artifacts.get? id)
  capabilities : ∀ id, Option.Rel (fun c d => compareCapability c d = true) (s.capabilities.get? id)
    (t.capabilities.get? id)
  sessions : ∀ id, Option.Rel (fun c d => compareSession localeCompare c d = true) (s.sessions.get? id)
    (t.sessions.get? id)
  links : ∀ id, Option.Rel (fun l k => compareLink l k = true) (s.links.get? id) (t.links.get? id)
  heartbeats : s.heartbeatLog = t.heartbeatLog
  policy : s.policyContext = t.policyContext

section LineUp
variable (localeCompare : LocaleCompare)

/-- Sorted by the collation, the keys come in one order. They do where the maps were filled in one order, and
wherever the collation tells the keys apart. -/
def SortedAlike {V W : Type} (m : OrdMap String V) (n : OrdMap String W) : Prop :=
  (sortedEntries localeCompare m).map Prod.fst = (sortedEntries localeCompare n).map Prod.fst

structure KeysLineUp (s t : CollaborationSnapshot) : Prop where
  participants : SortedAlike localeCompare s.participants t.participants
  artifacts : SortedAlike localeCompare s.artifacts t.artifacts
  capabilities : SortedAlike localeCompare s.capabilities t.capabilities
  sessions : SortedAlike localeCompare s.sessions t.sessions
  links : SortedAlike localeCompare s.links t.links

end LineUp

theorem zip_all_of_keys {xs ys : List (String × V)} (hkeys : xs.map Prod.fst = ys.map Prod.fst)
    (h : ∀ k v w, (k, v) ∈ xs → (k, w) ∈ ys → compare v w = true) :
    (xs.zip ys).all (fun e => e.1.1 = e.2.1 && compare e.1.2 e.2.2) = true := by
  induction xs generalizing ys with
  | nil => rfl
  | cons x xs ih =>
      cases ys with
      | nil => rfl
      | cons y ys =>
          obtain ⟨k, v⟩ := x
          obtain ⟨k', w⟩ := y
          obtain ⟨rfl, hrest⟩ := List.cons.inj hkeys
          rw [List.zip_cons_cons, List.all_cons, h k v w List.mem_cons_self List.mem_cons_self,
            ih hrest fun key a b ha hb => h key a b (List.mem_cons_of_mem _ ha) (List.mem_cons_of_mem _ hb)]
          simp

theorem keys_of_zip_all {xs ys : List (String × V)} (hlength : xs.length = ys.length)
    (h : (xs.zip ys).all (fun e => e.1.1 = e.2.1 && compare e.1.2 e.2.2) = true) :
    xs.map Prod.fst = ys.map Prod.fst := by
  induction xs generalizing ys with
  | nil => rw [List.length_eq_zero_iff.1 hlength.symm]
  | cons x xs ih =>
      cases ys with
      | nil => cases hlength
      | cons y ys =>
          rw [List.zip_cons_cons, List.all_cons, Bool.and_eq_true, Bool.and_eq_true, decide_eq_true_eq] at h
          rw [List.map_cons, List.map_cons, h.1.1, ih (Nat.succ.inj hlength) h.2]

/-- Maps compare equal if their sorted keys line up and no value under a key is told apart. -/
theorem mapEntitiesEqual_iff : mapEntitiesEqual localeCompare m n compare = true ↔
    (∀ k, Option.Rel (fun v w => compare v w = true) (m.get? k) (n.get? k)) ∧ SortedAlike localeCompare m n := by
  constructor
  · intro h
    refine ⟨mapEntitiesEqual_get? h, ?_⟩
    rw [mapEntitiesEqual, Bool.and_eq_true, decide_eq_true_eq] at h
    exact keys_of_zip_all h.1 h.2
  · rintro ⟨hcompare, hkeys⟩
    have hlength := congrArg List.length hkeys
    rw [List.length_map, List.length_map] at hlength
    rw [mapEntitiesEqual, Bool.and_eq_true, decide_eq_true_eq]
    refine ⟨hlength, zip_all_of_keys hkeys fun k v w hv hw => ?_⟩
    have hk := hcompare k
    rw [mem_sortedEntries.1 hv, mem_sortedEntries.1 hw] at hk
    cases hk with
    | some h => exact h

theorem snapshotsCanonicallyEqual_iff : snapshotsCanonicallyEqual localeCompare s t = true ↔
    s.epochId = t.epochId ∧ s.auditTail = t.auditTail ∧ ComparedAlike localeCompare s t ∧
      KeysLineUp localeCompare s t := by
  simp only [snapshotsCanonicallyEqual, Bool.and_eq_true, decide_eq_true_eq, mapEntitiesEqual_iff]
  constructor
  · rintro ⟨⟨⟨⟨⟨⟨⟨⟨⟨hepoch, haudit⟩, hretired⟩, hparticipants⟩, hartifacts⟩, hcapabilities⟩, hsessions⟩, hlinks⟩,
      hheartbeats⟩, hpolicy⟩
    exact ⟨hepoch, haudit,
      ⟨hretired, hparticipants.1, hartifacts.1, hcapabilities.1, hsessions.1, hlinks.1, hheartbeats, hpolicy⟩,
      ⟨hparticipants.2, hartifacts.2, hcapabilities.2, hsessions.2, hlinks.2⟩⟩
  · rintro ⟨hepoch, haudit, ⟨hretired, hparticipants, hartifacts, hcapabilities, hsessions, hlinks, hheartbeats,
      hpolicy⟩, ⟨kparticipants, kartifacts, kcapabilities, ksessions, klinks⟩⟩
    exact ⟨⟨⟨⟨⟨⟨⟨⟨⟨hepoch, haudit⟩, hretired⟩, hparticipants, kparticipants⟩, hartifacts, kartifacts⟩,
      hcapabilities, kcapabilities⟩, hsessions, ksessions⟩, hlinks, klinks⟩, hheartbeats⟩, hpolicy⟩

/-! ### The fields left out -/

/-- Agreement of two snapshots on the fields that canonical equality does not look at, or looks at through
the joined text of a member list only. -/
structure BlindFieldsAgree (s t : CollaborationSnapshot) : Prop where
  participants : ∀ id p q, s.participants.get? id = some p → t.participants.get? id = some q →
    p.namespaceId = q.namespaceId ∧ p.manifestRef = q.manifestRef
  members : ∀ id c d, s.sessions.get? id = some c → t.sessions.get? id = some d →
    c.participants = d.participants
  namespaces : s.namespaces.Equiv t.namespaces
  transcripts : s.transcripts.Equiv t.transcripts
  requests : s.transcriptAccessRequests.Equiv t.transcriptAccessRequests

theorem blindFieldsAgree_of_sameWorld (h : SameWorld s t) : BlindFieldsAgree s t := by
  refine ⟨fun id p q hp hq => ?_, fun id c d hc hd => ?_, h.namespaces, h.transcripts, h.transcriptAccessRequests⟩
  · cases hp.symm.trans ((h.participants id).trans hq)
    exact ⟨rfl, rfl⟩
  · cases hc.symm.trans ((h.sessions id).trans hd)
    rfl

theorem equiv_of_rel (h : ∀ k, Option.Rel (fun v w => compare v w = true) (m.get? k) (n.get? k))
    (hcompare : ∀ k v w, m.get? k = some v → n.get? k = some w → compare v w = true → v = w) : m.Equiv n := by
  intro k
  have hk := h k
  cases hm : m.get? k with
  | none =>
      rw [hm] at hk
      cases hn : n.get? k with
      | none => rfl
      | some w => rw [hn] at hk; cases hk
  | some v =>
      rw [hm] at hk
      cases hn : n.get? k with
      | none => rw [hn] at hk; cases hk
      | some w =>
          rw [hn] at hk
          cases hk with
          | some hvw => rw [hcompare k v w hm hn hvw]

theorem rel_of_equiv (h : m.Equiv n) (hcompare : ∀ v, compare v v = true) (k : String) :
    Option.Rel (fun v w => compare v w = true) (m.get? k) (n.get? k) := by
  rw [h k]
  cases n.get? k with
  | none => exact .none
  | some v => exact .some (hcompare v)

theorem sameWorld_iff : SameWorld s t ↔ s.epochId = t.epochId ∧ s.auditTail = t.auditTail ∧
    ComparedAlike localeCompare s t ∧ BlindFieldsAgree s t := by
  constructor
  · intro h
    refine ⟨h.epochId, h.auditTail, ⟨h.retiredEntities, ?_, ?_, ?_, ?_, ?_, h.heartbeatLog, h.policyContext⟩, ?_⟩
    · exact rel_of_equiv h.participants fun _ => by simp [compareParticipant]
    · exact rel_of_equiv h.artifacts fun _ => by simp [compareArtifact]
    · exact rel_of_equiv h.capabilities fun _ => by simp [compareCapability]
    · exact rel_of_equiv h.sessions fun _ => by simp [compareSession]
    · exact rel_of_equiv h.links fun _ => by simp [compareLink]
    · exact blindFieldsAgree_of_sameWorld h
  · rintro ⟨hepoch, haudit, halike, hblind⟩
    refine ⟨hepoch, ?_, ?_, ?_, ?_, ?_, halike.policy, haudit, halike.retired, halike.heartbeats, hblind.namespaces,
      hblind.transcripts, hblind.requests⟩
    · refine equiv_of_rel halike.participants fun id p q hp hq hcompare => ?_
      obtain ⟨hnamespace, hmanifest⟩ := hblind.participants id p q hp hq
      exact compareParticipant_eq hcompare hnamespace hmanifest
    · exact equiv_of_rel halike.artifacts fun _ _ _ _ _ => compareArtifact_eq
    · exact equiv_of_rel halike.links fun _ _ _ _ _ => compareLink_eq
    · exact equiv_of_rel halike.sessions fun id c d hc hd hcompare =>
        compareSession_eq hcompare (hblind.members id c d hc hd)
    · exact equiv_of_rel halike.capabilities fun _ _ _ _ _ => compareCapability_eq

theorem sameWorld_iff_blindFieldsAgree (h : snapshotsCanonicallyEqual localeCompare s t = true) :
    SameWorld s t ↔ BlindFieldsAgree s t := by
  obtain ⟨hepoch, haudit, halike, -⟩ := snapshotsCanonicallyEqual_iff.1 h
  exact ⟨blindFieldsAgree_of_sameWorld, fun hblind => sameWorld_iff.2 ⟨hepoch, haudit, halike, hblind⟩⟩

end Cantilune
