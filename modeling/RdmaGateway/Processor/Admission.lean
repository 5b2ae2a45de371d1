/-
  Processor/Admission.lean --- the two tables of a LAN core, and what its windows hold.

  The QP table and the ARQ contexts are searched the same way, asked for the same keys
  and never give a slot back, so both hold the first 1024 queue pairs that sent a WRITE
  (`Foundation.FirstCome`).  A window of a LAN core is sent packets and nothing else, so
  it holds the first 256 WRITEs of its queue pair (`Arq.Filling`).  `LanTables` is both
  facts about one core, as a function of the WRITEs it received.
-/
import RdmaGateway.Foundation.FirstCome
import RdmaGateway.Arq.Filling
import RdmaGateway.Processor.LanRun

set_option autoImplicit false

namespace RdmaGateway.Processor

open RdmaGateway.Foundation
open RdmaGateway.Dpdk
open RdmaGateway.Wire
open RdmaGateway.Roce
open RdmaGateway.Tunnel
open RdmaGateway.Arq

/-! ## The tables -/

/-- The queue pair of a used slot of the QP table. -/
def QpContext.key (qp : QpContext) : Option Nat := if qp.active then some qp.qpn else none

/-- The queue pair of a used ARQ context. -/
def contextKey (ctx : ArqContext Mbuf) : Option Nat := if ctx.qpn = 0 then none else some ctx.qpn

/-- `qp_get_or_create` looks for the key, then for a free slot. -/
theorem qpGetOrCreate_firstCome (mgr : QpManager) (qpn : Nat) :
    (qpGetOrCreate mgr qpn).1 = (mgr.qps.firstCome (fun qp => qp.active && qp.qpn == qpn)
        (fun qp => !qp.active) { QpContext.zero with qpn := qpn, active := true }).1 ∧
      (qpGetOrCreate mgr qpn).2.qps = (mgr.qps.firstCome (fun qp => qp.active && qp.qpn == qpn)
        (fun qp => !qp.active) { QpContext.zero with qpn := qpn, active := true }).2 := by
  unfold qpGetOrCreate Table.firstCome
  cases mgr.qps.findSlot fun qp => qp.active && qp.qpn == qpn with
  | some i => exact ⟨rfl, rfl⟩
  | none =>
    cases mgr.qps.findSlot fun qp => !qp.active with
    | some i => exact ⟨rfl, rfl⟩
    | none => exact ⟨rfl, rfl⟩

theorem arqGetOrCreate_firstCome (mgr : ArqManager Mbuf) (qpn : Nat) :
    arqGetOrCreate mgr qpn =
      ((mgr.contexts.firstCome (fun ctx => ctx.qpn == qpn) (fun ctx => ctx.qpn == 0)
          (.fresh qpn)).1,
        ⟨(mgr.contexts.firstCome (fun ctx => ctx.qpn == qpn) (fun ctx => ctx.qpn == 0)
          (.fresh qpn)).2⟩) := by
  unfold arqGetOrCreate arqFind Table.firstCome
  cases mgr.contexts.findSlot fun ctx => ctx.qpn == qpn with
  | some i => rfl
  | none =>
    cases mgr.contexts.findSlot fun ctx => ctx.qpn == 0 with
    | some i => rfl
    | none => rfl

section Keys

variable {qpn : Nat}

theorem qpKey_eq_some (qp : QpContext) :
    (qp.active && qp.qpn == qpn) = true ↔ qp.key = some qpn := by
  cases h : qp.active <;> simp [QpContext.key, h]

theorem qpKey_eq_none (qp : QpContext) : (!qp.active) = true ↔ qp.key = none := by
  cases h : qp.active <;> simp [QpContext.key, h]

theorem contextKey_eq_some (hqpn : qpn ≠ 0) (ctx : ArqContext Mbuf) :
    (ctx.qpn == qpn) = true ↔ contextKey ctx = some qpn := by
  by_cases h : ctx.qpn = 0
  · simpa [contextKey, h] using hqpn.symm
  · simp [contextKey, h]

theorem contextKey_eq_none (ctx : ArqContext Mbuf) :
    (ctx.qpn == 0) = true ↔ contextKey ctx = none := by
  by_cases h : ctx.qpn = 0 <;> simp [contextKey, h]

theorem contextKey_eq_none_iff {ctx : ArqContext Mbuf} : contextKey ctx = none ↔ ctx.qpn = 0 :=
  (contextKey_eq_none ctx).symm.trans beq_iff_eq

theorem contextKey_eq_some_iff {ctx : ArqContext Mbuf} :
    contextKey ctx = some qpn ↔ ctx.qpn ≠ 0 ∧ ctx.qpn = qpn := by
  by_cases h : ctx.qpn = 0 <;> simp [contextKey, h]

theorem contextKey_of_ne {ctx : ArqContext Mbuf} (h : ctx.qpn ≠ 0) :
    contextKey ctx = some ctx.qpn :=
  if_neg h

end Keys

/-! ## What a core was sent -/

/-- The packet is a WRITE for a known peer. -/
def IsTunnelled (pm : PeerManager) (m : Mbuf) : Prop :=
  m.isRoceWrite ∧ pmLookup pm (bswap32 m.ipDstAddr) ≠ 0

instance (pm : PeerManager) (m : Mbuf) : Decidable (IsTunnelled pm m) :=
  inferInstanceAs (Decidable (_ ∧ _))

/-- The three ways a packet can take. -/
theorem lan_path (proc : ProcessorContext) (m : Mbuf) (host : Host) :
    (m.etherType ≠ rteEtherTypeIpv4 ∧
        procProcessLanRx proc m host = (proc.count .pktsDropped, host.free m)) ∨
      (m.etherType = rteEtherTypeIpv4 ∧ ¬ IsTunnelled host.peerManager m ∧
        procProcessLanRx proc m host = lanPassthrough proc m host) ∨
      IsTunnelled host.peerManager m ∧ procProcessLanRx proc m host =
        lanWrite proc m (wanGetPeerIp host (bswap32 m.ipDstAddr)) host := by
  rw [procProcessLanRx]
  by_cases htype : m.etherType = rteEtherTypeIpv4
  · rw [if_neg (not_not.mpr htype)]
    refine .inr ?_
    dsimp only
    split
    · rename_i hpeer
      exact .inl ⟨htype, fun h => h.2 hpeer, rfl⟩
    rename_i hpeer
    split
    · rename_i hproto
      exact .inl ⟨htype, fun h => hproto h.1.2.1, rfl⟩
    rename_i hproto
    split
    · rename_i hport
      exact .inl ⟨htype, fun h => hport h.1.2.2.1, rfl⟩
    rename_i hport
    split
    · rename_i hop
      exact .inl ⟨htype, fun h => by simp [h.1.2.2.2] at hop, rfl⟩
    · rename_i hop
      exact .inr ⟨⟨⟨htype, not_not.mp hproto, not_not.mp hport, by simpa using hop⟩, hpeer⟩, rfl⟩
  · exact .inl ⟨htype, if_pos htype⟩

/-- Without a peer an IPv4 packet is passed on, whatever it carries. -/
theorem procProcessLanRx_no_peer (proc : ProcessorContext) {m : Mbuf} {host : Host}
    (htype : m.etherType = rteEtherTypeIpv4)
    (hpeer : wanGetPeerIp host (bswap32 m.ipDstAddr) = 0) :
    procProcessLanRx proc m host = lanPassthrough proc m host := by
  rcases lan_path proc m host with ⟨hother, -⟩ | ⟨-, -, heq⟩ | ⟨htunnel, -⟩
  · exact absurd htype hother
  · exact heq
  · exact absurd hpeer htunnel.2

/-- The queue pairs a core serves after it has received these WRITEs. -/
def servedQps (writes : List Mbuf) : List Nat := firstKeys maxQpCtx (writes.map Mbuf.bthGetQpn)

/-- The WRITEs of one queue pair. -/
def writesOf (qpn : Nat) (writes : List Mbuf) : List Mbuf :=
  writes.filter fun m => m.bthGetQpn == qpn

theorem writesOf_concat_self (writes : List Mbuf) (m : Mbuf) :
    writesOf m.bthGetQpn (writes ++ [m]) = writesOf m.bthGetQpn writes ++ [m] := by
  simp [writesOf]

theorem writesOf_concat_of_ne {qpn : Nat} (writes : List Mbuf) {m : Mbuf} (h : m.bthGetQpn ≠ qpn) :
    writesOf qpn (writes ++ [m]) = writesOf qpn writes := by
  simp [writesOf, h]

/-- The entry holds the packet, with the address of the tunnel, and has never been
retransmitted. -/
def HoldsWrite (srcIp : Nat) (m : Mbuf) (e : ArqSendEntry Mbuf) : Prop :=
  e.psn = m.bthGetPsn ∧ e.segmentType = getSegmentType m.bthOpcode ∧ e.retryCount = 0 ∧
    ∃ w, e.mbuf = some w ∧ IsReaddressed (setSrcAddr srcIp m) w

/-! ## The QP table -/

/-- The QP table has the queue pairs served. -/
def ServesQps (writes : List Mbuf) (proc : ProcessorContext) : Prop :=
  Table.Registers QpContext.key proc.qpMgr.qps (servedQps writes)

theorem servedQps_concat (writes : List Mbuf) (m : Mbuf) :
    servedQps (writes ++ [m]) =
      firstKeys maxQpCtx (writes.map Mbuf.bthGetQpn ++ [m.bthGetQpn]) := by
  simp [servedQps]

theorem ServesQps.same {writes : List Mbuf} {proc proc' : ProcessorContext}
    (h : ServesQps writes proc) (hsame : SameQps proc proc') : ServesQps writes proc' :=
  h.congr fun i => by simp only [QpContext.key, hsame.active i, hsame.qpn i]

/-- The QP table after one more WRITE. -/
theorem ServesQps.concat {writes : List Mbuf} {proc : ProcessorContext}
    (h : ServesQps writes proc) (m : Mbuf) :
    Table.Registers QpContext.key (qpGetOrCreate proc.qpMgr m.bthGetQpn).2.qps
        (servedQps (writes ++ [m])) ∧
      ∀ i, (qpGetOrCreate proc.qpMgr m.bthGetQpn).1 = some i ↔
        (servedQps (writes ++ [m]))[i.val]? = some m.bthGetQpn := by
  obtain ⟨hslot, htable⟩ := qpGetOrCreate_firstCome proc.qpMgr m.bthGetQpn
  rw [hslot, htable, servedQps_concat]
  exact h.firstCome_spec qpKey_eq_some qpKey_eq_none rfl

/-- One packet of the LAN: it is no WRITE for a known peer, it is one of a queue pair that
is not served and is freed, or it is forwarded. -/
inductive Admits (writes : List Mbuf) (proc : ProcessorContext) (m : Mbuf) (host : Host)
    (r : ProcessorContext × Host) : Prop
  | other (hother : ¬ IsTunnelled host.peerManager m) (hkeep : KeepsTables proc r.1)
  | refused (hwrite : IsTunnelled host.peerManager m)
      (hrefused : m.bthGetQpn ∉ servedQps (writes ++ [m])) (hkeep : KeepsTables proc r.1)
      (hadds : Adds host r.2 [.free m])
  | served {qpMgr : QpManager} {before after : List (Event Mbuf)} {w : Mbuf}
      {inWindow : Int} {accepted : Bool} (hwrite : IsTunnelled host.peerManager m)
      (hserved : m.bthGetQpn ∈ servedQps (writes ++ [m]))
      (hqps : Table.Registers QpContext.key qpMgr.qps (servedQps (writes ++ [m])))
      (hfwd : Forwarded { proc with qpMgr := qpMgr } host m
        (wanGetPeerIp host (bswap32 m.ipDstAddr)) r before after w inWindow accepted)

theorem ServesQps.admits {writes : List Mbuf} {proc : ProcessorContext}
    (h : ServesQps writes proc) (m : Mbuf) (host : Host) :
    Admits writes proc m host (procProcessLanRx proc m host) := by
  obtain ⟨htable, hslot⟩ := h.concat m
  have hsome : ∀ {i}, (qpGetOrCreate proc.qpMgr m.bthGetQpn).1 = some i →
      m.bthGetQpn ∈ servedQps (writes ++ [m]) :=
    fun hi => List.mem_of_getElem? ((hslot _).mp hi)
  cases lan_outcome proc m host with
  | freed hwhy hkeep hadds =>
    by_cases hwrite : IsTunnelled host.peerManager m
    · have hnone := hwhy.resolve_left (not_not.mpr hwrite.1.1)
      refine .refused hwrite (fun hserved => ?_) hkeep hadds
      obtain ⟨i, hi⟩ := Table.exists_slot (length_firstKeys_le _) hserved
      exact absurd ((hslot i).mpr hi) (by simp [hnone])
    · exact .other hwrite hkeep
  | passed hwhy hkeep _ _ _ =>
    refine .other (fun hwrite => ?_) hkeep
    rcases hwhy with hpeer | hno
    · exact hwrite.2 hpeer
    · exact hno hwrite.1
  | forwarded hwrite hpeer hqp hfwd =>
    rw [hqp] at htable hsome
    exact .served ⟨hwrite, hpeer⟩ (hsome rfl) htable hfwd

/-- The WRITEs received after one more packet. -/
def writesAfter (pm : PeerManager) (writes : List Mbuf) (m : Mbuf) : List Mbuf :=
  if IsTunnelled pm m then writes ++ [m] else writes

/-- A queue pair that is turned away changes nothing. -/
theorem servedQps_refused {writes : List Mbuf} {m : Mbuf}
    (h : m.bthGetQpn ∉ servedQps (writes ++ [m])) :
    servedQps (writes ++ [m]) = servedQps writes := by
  rw [servedQps_concat, firstKeys_concat] at h ⊢
  split at h
  · rename_i hwhy
    exact if_pos hwhy
  · exact absurd (List.mem_append_right _ (List.mem_singleton_self _)) h

theorem ServesQps.step {writes : List Mbuf} {proc : ProcessorContext} (h : ServesQps writes proc)
    (m : Mbuf) (host : Host) :
    ServesQps (writesAfter host.peerManager writes m) (procProcessLanRx proc m host).1 := by
  cases h.admits m host with
  | other hother hkeep =>
    rw [writesAfter, if_neg hother]
    exact h.same hkeep.toSameQps
  | refused hwrite hrefused hkeep _ =>
    rw [writesAfter, if_pos hwrite, ServesQps, servedQps_refused hrefused]
    exact h.same hkeep.toSameQps
  | @served qpMgr _ _ _ _ _ hwrite _ hqps hfwd =>
    have hserves : ServesQps (writes ++ [m]) { proc with qpMgr := qpMgr } := hqps
    rw [writesAfter, if_pos hwrite]
    exact hserves.same hfwd.keeps

/-! ## The windows -/

/-- The QP table has the queue pairs served, the ARQ manager has them in the same slots,
and each window holds the first WRITEs of its queue pair. -/
structure LanTables (srcIp : Nat) (writes : List Mbuf) (proc : ProcessorContext) : Prop where
  qps : ServesQps writes proc
  contexts : Table.Registers contextKey proc.arqMgr.contexts (servedQps writes)
  windows : ∀ (i : Fin maxQpCtx) (qpn : Nat), (servedQps writes)[i.val]? = some qpn →
    FilledWith (HoldsWrite srcIp) (proc.arqMgr.contexts i) (writesOf qpn writes)

theorem lanTables_init (srcIp : Nat) (host : Host) (lcoreId : Nat) (isLanCore : Bool) :
    LanTables srcIp [] (procInit host lcoreId isLanCore) where
  qps := Table.registers_nil fun _ => rfl
  contexts := Table.registers_nil fun _ => rfl
  windows := fun _ _ h => absurd h (by simp [servedQps])

section Step

variable {srcIp : Nat} {writes : List Mbuf} {proc proc' : ProcessorContext}

theorem LanTables.keep (h : LanTables srcIp writes proc) (hkeep : KeepsTables proc proc') :
    LanTables srcIp writes proc' where
  qps := h.qps.same hkeep.toSameQps
  contexts := by
    rw [hkeep.arqMgr]
    exact h.contexts
  windows := by
    rw [hkeep.arqMgr]
    exact h.windows

/-- The ARQ contexts after `arq_get_or_create` for one more WRITE: the new context, if
there is one, is empty. -/
theorem LanTables.contexts_concat (h : LanTables srcIp writes proc) {m : Mbuf}
    (hqpn : m.bthGetQpn ≠ 0) {slot : Option (Fin maxQpCtx)} {mgr₁ : ArqManager Mbuf}
    (hget : arqGetOrCreate proc.arqMgr m.bthGetQpn = (slot, mgr₁)) :
    Table.Registers contextKey mgr₁.contexts (servedQps (writes ++ [m])) ∧
      (∀ i, slot = some i ↔ (servedQps (writes ++ [m]))[i.val]? = some m.bthGetQpn) ∧
      ∀ (i : Fin maxQpCtx) (qpn : Nat), (servedQps (writes ++ [m]))[i.val]? = some qpn →
        FilledWith (HoldsWrite srcIp) (mgr₁.contexts i) (writesOf qpn writes) := by
  have hspec := h.contexts.firstCome_spec (contextKey_eq_some hqpn) contextKey_eq_none
    (contextKey_of_ne (show (ArqContext.fresh m.bthGetQpn : ArqContext Mbuf).qpn ≠ 0 from hqpn))
  have hcases := h.contexts.firstCome_cases (a := .fresh m.bthGetQpn) (contextKey_eq_some hqpn)
    contextKey_eq_none
  rw [arqGetOrCreate_firstCome] at hget
  generalize proc.arqMgr.contexts.firstCome (fun ctx => ctx.qpn == m.bthGetQpn)
    (fun ctx => ctx.qpn == 0) (.fresh m.bthGetQpn) = come at hget hspec hcases
  cases hget
  rw [servedQps_concat]
  refine ⟨hspec.1, hspec.2, fun i qpn hi => ?_⟩
  dsimp only
  rcases hcases with ⟨j, -, hcome, heq⟩ | ⟨hlt, hnew, hcome, heq⟩ | ⟨-, hcome, heq⟩
  · rw [heq] at hi
    rw [hcome]
    exact h.windows i qpn hi
  · rw [heq] at hi
    rw [hcome]
    dsimp only
    by_cases hslot : i = ⟨_, hlt⟩
    · subst hslot
      have hq : m.bthGetQpn = qpn := by simpa using hi
      subst hq
      have hnone : writesOf m.bthGetQpn writes = [] := by
        refine List.filter_eq_nil_iff.mpr fun w hw hqpn' => hnew ?_
        rw [← beq_iff_eq.mp hqpn']
        exact List.mem_map_of_mem hw
      rw [Function.update_self, hnone]
      exact filledWith_fresh _
    · have hne : i.val ≠ (firstKeys maxQpCtx (writes.map Mbuf.bthGetQpn)).length :=
        fun hval => hslot (Fin.ext hval)
      rw [Function.update_of_ne hslot]
      refine h.windows i qpn ?_
      obtain ⟨hilt, -⟩ := List.getElem?_eq_some_iff.mp hi
      rw [List.length_append, List.length_singleton] at hilt
      rwa [List.getElem?_append_left (by omega)] at hi
  · rw [heq] at hi
    rw [hcome]
    exact h.windows i qpn hi

/-- The context that was found is replaced by one that holds the new WRITE, too. -/
theorem LanTables.contexts_set (h : LanTables srcIp writes proc) {m : Mbuf}
    (hqpn : m.bthGetQpn ≠ 0) {i : Fin maxQpCtx} {mgr₁ : ArqManager Mbuf} {ctx : ArqContext Mbuf}
    (hget : arqGetOrCreate proc.arqMgr m.bthGetQpn = (some i, mgr₁))
    (hctx : ctx.qpn = (mgr₁.contexts i).qpn)
    (hfilled : FilledWith (HoldsWrite srcIp) ctx (writesOf m.bthGetQpn (writes ++ [m]))) :
    Table.Registers contextKey (mgr₁.setContext i ctx).contexts (servedQps (writes ++ [m])) ∧
      ∀ (j : Fin maxQpCtx) (qpn : Nat), (servedQps (writes ++ [m]))[j.val]? = some qpn →
        FilledWith (HoldsWrite srcIp) ((mgr₁.setContext i ctx).contexts j)
          (writesOf qpn (writes ++ [m])) := by
  obtain ⟨hregisters, hslot, hwindows⟩ := h.contexts_concat hqpn hget
  have hi := (hslot i).mp rfl
  refine ⟨hregisters.congr fun j => ?_, fun j qpn hj => ?_⟩
  · by_cases hji : j = i
    · subst hji
      rw [setContext_contexts_self]
      simp only [contextKey, hctx]
    · rw [setContext_contexts_of_ne _ _ hji]
  · by_cases hji : j = i
    · subst hji
      obtain rfl := Option.some.inj (hi.symm.trans hj)
      rwa [setContext_contexts_self]
    · have hne : m.bthGetQpn ≠ qpn := by
        rintro rfl
        obtain ⟨hlt, -⟩ := List.getElem?_eq_some_iff.mp hj
        exact hji (Fin.ext ((List.getElem?_inj hlt (nodup_firstKeys _)).mp (hj.trans hi.symm)))
      rw [setContext_contexts_of_ne _ _ hji, writesOf_concat_of_ne _ hne]
      exact hwindows j qpn hj

/-- The admission of one more WRITE, when the core serves its queue pair: the window takes
it as long as it has room. -/
theorem LanTables.tracks (h : LanTables srcIp writes proc) {m w : Mbuf} (hqpn : m.bthGetQpn ≠ 0)
    (hserved : m.bthGetQpn ∈ servedQps (writes ++ [m]))
    (hw : IsReaddressed (setSrcAddr srcIp m) w) {peerIp : Nat} {inWindow : Int}
    {mgr : ArqManager Mbuf}
    (htracks : Tracks proc.arqMgr w m.bthGetQpn m.bthGetPsn (getSegmentType m.bthOpcode) peerIp
      inWindow mgr) :
    (inWindow = 0 ↔ (writesOf m.bthGetQpn writes).length < windowSize) ∧
    Table.Registers contextKey mgr.contexts (servedQps (writes ++ [m])) ∧
      ∀ (i : Fin maxQpCtx) (qpn : Nat), (servedQps (writes ++ [m]))[i.val]? = some qpn →
        FilledWith (HoldsWrite srcIp) (mgr.contexts i) (writesOf qpn (writes ++ [m])) := by
  cases htracks with
  | noContext hget =>
    obtain ⟨-, hslot, -⟩ := h.contexts_concat hqpn hget
    obtain ⟨i, hi⟩ := Table.exists_slot (length_firstKeys_le _) hserved
    exact absurd ((hslot i).mpr hi) (by simp)
  | @noSlot i mgr₁ hget hbusy =>
    obtain ⟨-, hslot, hwindows⟩ := h.contexts_concat hqpn hget
    have hfilled := hwindows i _ ((hslot i).mp rfl)
    have hfull := hfilled.inFlight_next.mp hbusy
    refine ⟨iff_of_false (by decide) (by omega), h.contexts_set hqpn hget rfl ?_⟩
    rw [writesOf_concat_self]
    exact (hfilled.refused hfull m).setPeerIp peerIp
  | @stored i mgr₁ now hget hroom =>
    obtain ⟨-, hslot, hwindows⟩ := h.contexts_concat hqpn hget
    have hfilled := hwindows i _ ((hslot i).mp rfl)
    have hlt : (writesOf m.bthGetQpn writes).length < windowSize := by
      refine Nat.lt_of_not_le fun hfull => ?_
      rw [hfilled.inFlight_next.mpr hfull] at hroom
      cases hroom
    refine ⟨iff_of_true rfl hlt, h.contexts_set hqpn hget rfl ?_⟩
    rw [writesOf_concat_self]
    exact (hfilled.sent hlt ⟨rfl, rfl, rfl, w, rfl, hw⟩).setPeerIp peerIp

/-- Every packet keeps both, for the WRITEs received after it. -/
theorem LanTables.step (h : LanTables srcIp writes proc) {m : Mbuf} {host : Host}
    (hsrc : host.wanTunnelSrcIp = srcIp)
    (hqpn : IsTunnelled host.peerManager m → m.bthGetQpn ≠ 0) :
    LanTables srcIp (writesAfter host.peerManager writes m) (procProcessLanRx proc m host).1 := by
  have hqps := h.qps.step m host
  cases h.qps.admits m host with
  | other hother hkeep =>
    rw [writesAfter, if_neg hother]
    exact h.keep hkeep
  | refused hwrite hrefused hkeep _ =>
    rw [writesAfter, if_pos hwrite] at hqps ⊢
    refine ⟨hqps, ?_, fun i qpn hi => ?_⟩
    · rw [hkeep.arqMgr, servedQps_refused hrefused]
      exact h.contexts
    · rw [hkeep.arqMgr]
      rw [servedQps_refused hrefused] at hi hrefused
      have hne : m.bthGetQpn ≠ qpn := by
        rintro rfl
        exact hrefused (List.mem_of_getElem? hi)
      rw [writesOf_concat_of_ne _ hne]
      exact h.windows i qpn hi
  | served hwrite hserved _ hfwd =>
    rw [writesAfter, if_pos hwrite] at hqps ⊢
    obtain ⟨-, hcontexts, hwindows⟩ :=
      h.tracks (hqpn hwrite) hserved (hsrc ▸ hfwd.readdressed) hfwd.tracks
    exact ⟨hqps, hcontexts, hwindows⟩

end Step

end RdmaGateway.Processor
