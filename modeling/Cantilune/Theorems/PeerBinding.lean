import Cantilune.Comms.HmacIdentity

/-!
# Binding material of one peer and of another

What the verifier accepts was signed for the peer's descriptor. Whether it could have been signed for another one
depends on the colons in the signed text.
-/

namespace Cantilune.Comms

variable {host : HmacIdentityHost} {descriptor : PeerDescriptor} {credentialRef secret material : String}
  {d n t d' n' t' : String}

/-! ## Signatures -/

theorem hexValue_hexDigit {n : Nat} (h : n < 16) : hexValue (hexDigit n) = some n := by
  have hall : ∀ k : Fin 16, hexValue (hexDigit k) = some k := by decide
  exact hall ⟨n, h⟩

theorem bytesOfHex_hexOfBytes (bytes : List UInt8) : bytesOfHex (hexOfBytes bytes) = bytes := by
  rw [bytesOfHex, hexOfBytes, String.toList_ofList]
  induction bytes with
  | nil => rfl
  | cons b bytes ih =>
      have hb := UInt8.toNat_lt b
      rw [List.flatMap_cons, List.cons_append, List.cons_append, List.nil_append, bytesOfDigits,
        hexValue_hexDigit (by omega), hexValue_hexDigit (by omega)]
      dsimp only
      rw [ih, Nat.div_add_mod, UInt8.ofNat_toNat]

theorem bar_not_mem_hexOfBytes (bytes : List UInt8) : '|' ∉ (hexOfBytes bytes).toList := by
  rw [hexOfBytes, String.toList_ofList]
  intro hmem
  obtain ⟨b, -, hb⟩ := List.mem_flatMap.1 hmem
  have hall : ∀ k : Fin 16, '|' ≠ hexDigit k := by decide
  have hlt := UInt8.toNat_lt b
  rcases List.mem_cons.1 hb with h | h
  · exact hall ⟨b.toNat / 16, by omega⟩ h
  · exact hall ⟨b.toNat % 16, by omega⟩ (List.mem_singleton.1 h)

def carriedSignature (material : String) : Option (List UInt8) := (splitBars material).getLast?.map bytesOfHex

theorem carriedSignature_create (host : HmacIdentityHost) (secret d n t : String) :
    carriedSignature (createHmacBindingMaterial host secret d n t) = some (host.hmac secret (signedText d n t)) := by
  have htext : (createHmacBindingMaterial host secret d n t).toList =
      (n ++ "|" ++ t).toList ++ '|' :: (host.digestHex secret (signedText d n t)).toList := by
    rw [createHmacBindingMaterial, String.toList_append, String.toList_append, List.append_assoc]
    rfl
  have hlast : (host.digestHex secret (signedText d n t)).toList.splitOn '|' =
      [(host.digestHex secret (signedText d n t)).toList] :=
    List.splitOn_eq_singleton (bar_not_mem_hexOfBytes _)
  rw [carriedSignature, splitBars, htext, List.splitOn_append_cons_self, hlast, List.map_append,
    List.getLast?_append, List.map_singleton, List.getLast?_singleton, Option.some_or, Option.map_some,
    String.ofList_toList, HmacIdentityHost.digestHex, bytesOfHex_hexOfBytes]

def CarriesFor (host : HmacIdentityHost) (secret descriptorRef material : String) : Prop :=
  ∃ nonce issuedAt, carriedSignature material =
    carriedSignature (createHmacBindingMaterial host secret descriptorRef nonce issuedAt)

def Accepts (host : HmacIdentityHost) (descriptor : PeerDescriptor) (credentialRef material : String) : Prop :=
  ∃ context, verifyPeer host descriptor credentialRef material = some (.ok context)

theorem Accepts.signed (h : Accepts host descriptor credentialRef material)
    (hkey : host.resolveVerificationKey credentialRef = .ok secret) :
    ∃ n t s, splitBars material = [n, t, s] ∧
      bytesOfHex s = host.hmac secret (signedText descriptor.descriptorRef n t) := by
  obtain ⟨context, h⟩ := h
  rw [verifyPeer, hkey] at h
  dsimp only at h
  split at h
  · rename_i n t s hparts
    refine ⟨n, t, s, hparts, ?_⟩
    split at h
    · cases h
    · split at h
      · cases h
      · split at h
        · cases h
        · split at h
          · cases h
          · rename_i hsignature
            rw [HmacIdentityHost.digestHex, bytesOfHex_hexOfBytes] at hsignature
            exact not_not.1 hsignature
  · cases h

theorem signedText_inj_of_not_mem (hd : ':' ∉ d'.toList) (hn : ':' ∉ n'.toList) (ht : ':' ∉ t'.toList)
    (h : signedText d n t = signedText d' n' t') : d = d' := by
  have hlists : ∀ a b c : String, (signedText a b c).toList = a.toList ++ ':' :: (b.toList ++ ':' :: c.toList) := by
    intro a b c
    simp [signedText]
  have hcount := congrArg (fun s => s.toList.count ':') h
  simp only [hlists, List.count_append, List.count_cons_self, List.count_eq_zero.2 hd, List.count_eq_zero.2 hn,
    List.count_eq_zero.2 ht] at hcount
  have hd₀ : ':' ∉ d.toList := List.count_eq_zero.1 (by omega)
  have hheads := congrArg (fun s => (s.toList.splitOn ':').head?) h
  simp only [hlists, List.splitOn_append_cons_self_of_not_mem hd₀, List.splitOn_append_cons_self_of_not_mem hd,
    List.head?_cons, Option.some.injEq] at hheads
  exact String.toList_injective hheads

theorem exists_other_descriptor (h : ':' ∈ d'.toList ∨ ':' ∈ n'.toList ∨ ':' ∈ t'.toList) :
    ∃ d n t, d ≠ d' ∧ signedText d n t = signedText d' n' t' := by
  have hsplit : ∀ {s : String}, ':' ∈ s.toList → ∃ a b : String, s = a ++ ":" ++ b := by
    intro s hs
    obtain ⟨a, b, hab⟩ := List.append_of_mem hs
    exact ⟨String.ofList a, String.ofList b, String.toList_injective (by simp [hab])⟩
  have hlonger : ∀ {a b : String}, a ++ ":" ++ b ≠ a := by
    intro a b heq
    have hlength := congrArg String.length heq
    simp only [String.length_append] at hlength
    have hcolon : (":" : String).length = 1 := rfl
    omega
  rcases h with h | h | h
  · obtain ⟨a, b, rfl⟩ := hsplit h
    exact ⟨a, b ++ ":" ++ n', t', hlonger.symm, by simp [signedText, String.append_assoc]⟩
  · obtain ⟨a, b, rfl⟩ := hsplit h
    exact ⟨d' ++ ":" ++ a, b, t', hlonger, by simp [signedText, String.append_assoc]⟩
  · obtain ⟨a, b, rfl⟩ := hsplit h
    exact ⟨d' ++ ":" ++ n', a, b, hlonger, by simp [signedText, String.append_assoc]⟩

def NotTransferable (host : HmacIdentityHost) (descriptor : PeerDescriptor) (credentialRef secret material : String) :
    Prop :=
  Accepts host descriptor credentialRef material →
    CarriesFor host secret descriptor.descriptorRef material ∧
      ∀ other, other ≠ descriptor.descriptorRef → ¬ CarriesFor host secret other material

theorem carriesFor_iff (hinjective : ∀ secret, Function.Injective (host.hmac secret)) {n' t' s : String}
    (hparts : splitBars material = [n', t', s]) (hsigned : bytesOfHex s = host.hmac secret (signedText d' n' t')) :
    CarriesFor host secret d material ↔ ∃ n t, signedText d n t = signedText d' n' t' := by
  have hcarried : carriedSignature material = some (host.hmac secret (signedText d' n' t')) := by
    rw [carriedSignature, hparts, ← hsigned]
    rfl
  rw [CarriesFor, hcarried]
  simp only [carriedSignature_create, Option.some.injEq, (hinjective secret).eq_iff]
  exact ⟨fun ⟨n, t, h⟩ => ⟨n, t, h.symm⟩, fun ⟨n, t, h⟩ => ⟨n, t, h.symm⟩⟩

/-- Accepted material is not transferable exactly if neither the descriptor nor the nonce nor the time has a colon. -/
theorem not_transferable_iff (host : HmacIdentityHost) (hinjective : ∀ secret, Function.Injective (host.hmac secret))
    (descriptor : PeerDescriptor) {credentialRef secret : String} (material : String)
    (hkey : host.resolveVerificationKey credentialRef = .ok secret) :
    NotTransferable host descriptor credentialRef secret material ↔
      (Accepts host descriptor credentialRef material → ∀ nonce issuedAt signature,
        splitBars material = [nonce, issuedAt, signature] →
          ':' ∉ descriptor.descriptorRef.toList ∧ ':' ∉ nonce.toList ∧ ':' ∉ issuedAt.toList) := by
  refine imp_congr_right fun haccepts => ?_
  obtain ⟨n', t', s, hparts, hsigned⟩ := haccepts.signed hkey
  have hcarries : ∀ d, CarriesFor host secret d material ↔
      ∃ n t, signedText d n t = signedText descriptor.descriptorRef n' t' :=
    fun d => carriesFor_iff hinjective hparts hsigned
  rw [hcarries]
  constructor
  · rintro ⟨-, hothers⟩ nonce issuedAt signature hparts'
    cases hparts.symm.trans hparts'
    have hnone : ¬ (':' ∈ descriptor.descriptorRef.toList ∨ ':' ∈ n'.toList ∨ ':' ∈ t'.toList) := by
      intro hcolon
      obtain ⟨d, n, t, hne, htext⟩ := exists_other_descriptor hcolon
      exact hothers d hne ((hcarries d).2 ⟨n, t, htext⟩)
    rw [not_or, not_or] at hnone
    exact hnone
  · intro h
    obtain ⟨hd, hn, ht⟩ := h n' t' s hparts
    refine ⟨⟨n', t', rfl⟩, fun other hne hother => ?_⟩
    obtain ⟨n, t, htext⟩ := (hcarries other).1 hother
    exact hne (signedText_inj_of_not_mem hd hn ht htext)

/-! ## Material made for a descriptor -/

theorem splitBars_create (hn : '|' ∉ n.toList) (ht : '|' ∉ t.toList) :
    splitBars (createHmacBindingMaterial host secret d n t) =
      [n, t, host.digestHex secret (signedText d n t)] := by
  have htext : (createHmacBindingMaterial host secret d n t).toList =
      n.toList ++ '|' :: (t.toList ++ '|' :: (host.digestHex secret (signedText d n t)).toList) := by
    simp [createHmacBindingMaterial]
  rw [splitBars, htext, List.splitOn_append_cons_self_of_not_mem hn, List.splitOn_append_cons_self_of_not_mem ht,
    HmacIdentityHost.digestHex, List.splitOn_eq_singleton (bar_not_mem_hexOfBytes _)]
  simp

theorem accepts_create {principal : ActorRef} {issuedMs authenticatedMs : Int}
    (hkey : host.resolveVerificationKey credentialRef = .ok secret) (hactors : descriptor.actors.head? = some principal)
    (hn : '|' ∉ n.toList) (ht : '|' ∉ t.toList) (hissued : host.dateParse t = some issuedMs)
    (hage : ¬ (host.dateNow - issuedMs > host.ttlMs.getD 300000 ∨ host.dateNow - issuedMs < -60000))
    (hclock : host.dateParse host.clockNow = some authenticatedMs) :
    Accepts host descriptor credentialRef
      (createHmacBindingMaterial host secret descriptor.descriptorRef n t) := by
  obtain ⟨actors, hactors⟩ := List.head?_eq_some_iff.1 hactors
  rw [Accepts, verifyPeer, hkey]
  dsimp only
  rw [splitBars_create hn ht, hactors]
  dsimp only
  rw [hissued]
  dsimp only
  rw [if_neg hage, if_neg (not_not.2 rfl), hclock]
  exact ⟨_, rfl⟩

def plainHost : HmacIdentityHost where
  resolveVerificationKey _ := .ok "key"
  clockNow := "2026"
  ttlMs := none
  dateNow := 0
  dateParse _ := some 0
  toISOString _ := "2026"
  hmac _ text := text.toByteArray.data.toList

theorem injective_plainHost (secret : String) : Function.Injective (plainHost.hmac secret) := by
  intro s t h
  rw [← String.toByteArray_inj]
  exact ByteArray.ext (Array.toList_inj.1 h)

def plainDescriptor : PeerDescriptor :=
  { descriptorRef := "peer", digest := "d", runtimeInstanceId := "r", actors := [⟨"alice", .agent⟩] }

theorem accepts_plain {n t : String} (hn : '|' ∉ n.toList) (ht : '|' ∉ t.toList) :
    Accepts plainHost plainDescriptor "ref" (createHmacBindingMaterial plainHost "key" "peer" n t) :=
  accepts_create rfl rfl hn ht rfl (by decide) rfl

/-- A nonce and a day without colons. -/
theorem day_not_transferable : NotTransferable plainHost plainDescriptor "ref" "key"
    (createHmacBindingMaterial plainHost "key" "peer" "n" "2026-01-01") := by
  refine (not_transferable_iff plainHost injective_plainHost plainDescriptor _ rfl).2 fun _ nonce issuedAt signature hparts => ?_
  rw [splitBars_create (by decide) (by decide)] at hparts
  cases hparts
  decide

/-- A time of the day: the signature is also that of the descriptor with the nonce behind it. -/
theorem time_transferable :
    ¬ ∀ host : HmacIdentityHost, (∀ secret, Function.Injective (host.hmac secret)) →
      ∀ descriptor credentialRef secret material, host.resolveVerificationKey credentialRef = .ok secret →
        NotTransferable host descriptor credentialRef secret material := by
  intro hall
  have haccepts : Accepts plainHost plainDescriptor "ref"
      (createHmacBindingMaterial plainHost "key" "peer" "n" "12:00") := accepts_plain (by decide) (by decide)
  have hothers := (hall plainHost injective_plainHost plainDescriptor "ref" "key" _ rfl haccepts).2
  refine hothers "peer:n" (by decide) ⟨"12", "00", ?_⟩
  rw [carriedSignature_create, carriedSignature_create]
  rfl

end Cantilune.Comms
