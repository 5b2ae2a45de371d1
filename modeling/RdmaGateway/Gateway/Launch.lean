/-
  Gateway/Launch.lean --- which core polls which queue (`main`, `lan_main_loop` and
  `wan_main_loop` of `src/main.c`).

  `main` fills `lcore_args` by position: entry `i` names context `i` and, below the
  number of LAN cores, LAN queue `i`, from there on WAN queue `i - L`.  It then starts
  a loop on every lcore whose EAL id is below the number of entries, with the entry at
  that id.  So the id of an lcore decides what it polls, and the queues are all polled
  exactly when the ids are `0`, `1` and so on without a gap (`servesQueues_iff`).
-/
import RdmaGateway.Foundation.Word
import Mathlib.Data.Finset.Card
import Mathlib.Data.Finset.Range
import Mathlib.Data.List.Count
import Mathlib.Data.List.Nodup

set_option autoImplicit false

namespace RdmaGateway.Gateway

open RdmaGateway.Foundation

/-! ## Lcores -/

/-- The lcores EAL was started on; `maxLcore` is `RTE_MAX_LCORE`. -/
structure Eal where
  maxLcore : Nat
  lcores : Finset Nat
  mainLcore : Nat
  maxLcore_lt : maxLcore < 4294967296
  lt_maxLcore : ∀ id ∈ lcores, id < maxLcore
  mainLcore_mem : mainLcore ∈ lcores

/-- `rte_lcore_count`. -/
def Eal.lcoreCount (eal : Eal) : Nat := eal.lcores.card

/-- `RTE_LCORE_FOREACH_SLAVE`: the other lcores, in ascending order. -/
def Eal.slaves (eal : Eal) : List Nat :=
  (List.range eal.maxLcore).filter fun id => decide (id ∈ eal.lcores ∧ id ≠ eal.mainLcore)

theorem Eal.lcoreCount_le (eal : Eal) : eal.lcoreCount ≤ eal.maxLcore := by
  have hsub : eal.lcores ⊆ Finset.range eal.maxLcore :=
    fun id hid => Finset.mem_range.mpr (eal.lt_maxLcore id hid)
  simpa [lcoreCount] using Finset.card_le_card hsub

/-- Every lcore is met once: the slaves, and then the main lcore. -/
theorem Eal.mem_all (eal : Eal) {id : Nat} :
    id ∈ eal.slaves ++ [eal.mainLcore] ↔ id ∈ eal.lcores := by
  simp only [slaves, List.mem_append, List.mem_filter, List.mem_range, decide_eq_true_eq,
    List.mem_singleton]
  constructor
  · rintro (⟨-, hid, -⟩ | rfl)
    · exact hid
    · exact eal.mainLcore_mem
  · intro hid
    by_cases hmain : id = eal.mainLcore
    · exact Or.inr hmain
    · exact Or.inl ⟨eal.lt_maxLcore id hid, hid, hmain⟩

theorem Eal.nodup_all (eal : Eal) : (eal.slaves ++ [eal.mainLcore]).Nodup := by
  refine List.Nodup.append (List.nodup_range.filter _) (List.nodup_singleton _) ?_
  intro id hslave hmain
  obtain rfl := List.mem_singleton.mp hmain
  simp [slaves] at hslave

/-! ## Loops -/

/-- `lcore_args_t`; `proc` is the index in `g_processors`, and the pool, which all cores
share, is left out. -/
structure LcoreArgs where
  proc : Nat
  lanPort : Nat
  wanPort : Nat
  queueId : Nat
  isLanCore : Bool
  deriving DecidableEq

/-- What the two loops that fill `lcore_args` write at `i`. -/
def lcoreArgs (lanPort wanPort lanCoreCount i : Nat) : LcoreArgs :=
  if i < lanCoreCount then ⟨i, lanPort, wanPort, i % 65536, true⟩
  else ⟨i, lanPort, wanPort, (i - lanCoreCount) % 65536, false⟩

/-- A running `lan_main_loop` or `wan_main_loop`. -/
structure MainLoop where
  lcoreId : Nat
  isLan : Bool
  args : LcoreArgs
  deriving DecidableEq

/-- The port and the queue that the loop hands to `rte_eth_rx_burst`. -/
def MainLoop.polls (l : MainLoop) : Nat × Nat :=
  (if l.isLan then l.args.lanPort else l.args.wanPort, l.args.queueId)

/-- The loop that `main` starts on an lcore. -/
def mainLoop (lanPort wanPort lanCoreCount lcoreId : Nat) : MainLoop :=
  ⟨lcoreId, decide (lcoreId < lanCoreCount), lcoreArgs lanPort wanPort lanCoreCount lcoreId⟩

/-- One round of the loop over the slaves; `remoteLaunch` is what
`rte_eal_remote_launch` returns. -/
def launchSlave (remoteLaunch : Nat → Int) (total lanPort wanPort lanCoreCount : Nat)
    (loops : List MainLoop) (lcoreId : Nat) : Except Int (List MainLoop) :=
  if total ≤ lcoreId then .ok loops
  else if remoteLaunch lcoreId ≠ 0 then .error (-1)
  else .ok (loops ++ [mainLoop lanPort wanPort lanCoreCount lcoreId])

/-- The launch sequence of `main`: the slaves, and then the loop on the main lcore. -/
def launch (remoteLaunch : Nat → Int) (eal : Eal) (total lanPort wanPort lanCoreCount : Nat) :
    Except Int (List MainLoop) :=
  match eal.slaves.foldlM (launchSlave remoteLaunch total lanPort wanPort lanCoreCount) [] with
  | .error code => .error code
  | .ok loops =>
    .ok (if eal.mainLcore < total
      then loops ++ [mainLoop lanPort wanPort lanCoreCount eal.mainLcore] else loops)

section Launch

variable {remoteLaunch : Nat → Int} {total lanPort wanPort lanCoreCount : Nat}

/-- The slaves that run a loop, when no launch fails. -/
theorem launchSlave_foldlM {ids : List Nat} {loops loops' : List MainLoop}
    (h : ids.foldlM (launchSlave remoteLaunch total lanPort wanPort lanCoreCount) loops =
      .ok loops') :
    loops' = loops ++ (ids.filter fun id => decide (id < total)).map
      (mainLoop lanPort wanPort lanCoreCount) := by
  induction ids generalizing loops with
  | nil =>
    cases h
    simp
  | cons id ids ih =>
    rw [List.foldlM_cons, launchSlave] at h
    by_cases hskip : total ≤ id
    · rw [if_pos hskip] at h
      rw [ih h, List.filter_cons_of_neg (by simpa using hskip)]
    · rw [if_neg hskip] at h
      split at h
      · cases h
      · rw [ih h, List.filter_cons_of_pos (by simpa using hskip), List.map_cons, List.append_assoc,
          List.singleton_append]

/-- The running loops, when no launch fails: one on every lcore whose id is below the
number of contexts. -/
theorem launch_eq {eal : Eal} {loops : List MainLoop}
    (h : launch remoteLaunch eal total lanPort wanPort lanCoreCount = .ok loops) :
    loops = ((eal.slaves ++ [eal.mainLcore]).filter fun id => decide (id < total)).map
      (mainLoop lanPort wanPort lanCoreCount) := by
  rw [launch] at h
  split at h
  · cases h
  · rename_i slaves hslaves
    have hrun := launchSlave_foldlM hslaves
    rw [List.nil_append] at hrun
    rw [Except.ok.injEq] at h
    rw [← h, hrun, List.filter_append, List.map_append]
    by_cases hmain : eal.mainLcore < total
    · rw [if_pos hmain, List.filter_cons_of_pos (by simpa using hmain), List.filter_nil,
        List.map_singleton]
    · rw [if_neg hmain, List.filter_cons_of_neg (by simpa using hmain), List.filter_nil,
        List.map_nil, List.append_nil]

variable (total lanPort wanPort lanCoreCount) in
/-- When no launch fails, the sequence gets to its end. -/
theorem exists_launch (hlaunch : ∀ id, remoteLaunch id = 0) (eal : Eal) :
    ∃ loops, launch remoteLaunch eal total lanPort wanPort lanCoreCount = .ok loops := by
  have hslaves : ∀ (ids : List Nat) (loops : List MainLoop), ∃ loops',
      ids.foldlM (launchSlave remoteLaunch total lanPort wanPort lanCoreCount) loops =
        .ok loops' := by
    intro ids
    induction ids with
    | nil => exact fun loops => ⟨loops, rfl⟩
    | cons id ids ih =>
      intro loops
      rw [List.foldlM_cons, launchSlave]
      by_cases hskip : total ≤ id
      · rw [if_pos hskip]
        exact ih loops
      · rw [if_neg hskip, if_neg (not_not.mpr (hlaunch id))]
        exact ih _
  obtain ⟨loops, hloops⟩ := hslaves eal.slaves []
  rw [launch, hloops]
  exact ⟨_, rfl⟩

end Launch

/-! ## Coverage -/

/-- Every queue of the LAN port is polled by exactly one `lan_main_loop`, every queue of
the WAN port by exactly one `wan_main_loop`, and no two loops share a context. -/
def ServesQueues (lanPort wanPort L W : Nat) (loops : List MainLoop) : Prop :=
  (∀ q < L, loops.countP (fun l => l.isLan && l.polls == (lanPort, q)) = 1) ∧
    (∀ q < W, loops.countP (fun l => !l.isLan && l.polls == (wanPort, q)) = 1) ∧
    (loops.map fun l => l.args.proc).Nodup

instance (lanPort wanPort L W : Nat) (loops : List MainLoop) :
    Decidable (ServesQueues lanPort wanPort L W loops) :=
  inferInstanceAs (Decidable (_ ∧ _ ∧ _))

/-- In a list without repetitions, one element satisfies a test that picks out `x`
exactly when `x` is there. -/
theorem countP_eq_one_iff {ids : List Nat} (hnodup : ids.Nodup) {p : Nat → Bool} {x : Nat}
    (hp : ∀ id ∈ ids, p id = true ↔ id = x) : ids.countP p = 1 ↔ x ∈ ids := by
  have hcount : ids.countP p = ids.count x := by
    rw [List.count]
    refine List.countP_congr fun id hid => ?_
    rw [hp id hid, beq_iff_eq]
  rw [hcount]
  constructor
  · intro hone
    exact List.count_pos_iff.mp (by omega)
  · exact List.count_eq_one_of_mem hnodup

section Coverage

variable {lanPort wanPort L W : Nat} {ids : List Nat}

/-- One LAN queue. -/
theorem lan_countP (q : Nat) : (ids.map (mainLoop lanPort wanPort L)).countP
      (fun l => l.isLan && l.polls == (lanPort, q)) =
    ids.countP fun id => decide (id < L ∧ id % 65536 = q) := by
  rw [List.countP_map]
  refine List.countP_congr fun id _ => ?_
  by_cases hid : id < L <;> simp [mainLoop, MainLoop.polls, lcoreArgs, hid]

/-- One WAN queue. -/
theorem wan_countP (q : Nat) : (ids.map (mainLoop lanPort wanPort L)).countP
      (fun l => !l.isLan && l.polls == (wanPort, q)) =
    ids.countP fun id => decide (L ≤ id ∧ (id - L) % 65536 = q) := by
  rw [List.countP_map]
  refine List.countP_congr fun id _ => ?_
  by_cases hid : id < L
  · simp [mainLoop, hid]
  · simp [mainLoop, MainLoop.polls, lcoreArgs, hid, Nat.not_lt.mp hid]

theorem mainLoop_proc (id : Nat) : (mainLoop lanPort wanPort L id).args.proc = id := by
  simp only [mainLoop, lcoreArgs]
  split <;> rfl

/-- The loops on the lcores `ids`, all below `L + W`, serve the queues exactly when every
number below `L + W` is among them and the queues can be numbered with 16 bits. -/
theorem servesQueues_iff (hnodup : ids.Nodup) (hlt : ∀ id ∈ ids, id < L + W) :
    ServesQueues lanPort wanPort L W (ids.map (mainLoop lanPort wanPort L)) ↔
      (∀ id < L + W, id ∈ ids) ∧ L ≤ 65536 ∧ W ≤ 65536 := by
  have hprocs : (ids.map (mainLoop lanPort wanPort L)).map (fun l => l.args.proc) = ids := by
    rw [List.map_map]
    exact (List.map_congr_left fun id _ => mainLoop_proc id).trans (List.map_id ids)
  rw [ServesQueues, hprocs]
  simp only [lan_countP, wan_countP]
  constructor
  · rintro ⟨hlan, hwan, -⟩
    -- the queue that is polled has a number of 16 bits
    have hlan' : ∀ q < L, q < 65536 := by
      intro q hq
      have hpos : 0 < ids.countP fun id => decide (id < L ∧ id % 65536 = q) := by
        rw [hlan q hq]
        exact Nat.one_pos
      obtain ⟨id, -, hid⟩ := List.countP_pos_iff.mp hpos
      have hid' := of_decide_eq_true hid
      omega
    have hwan' : ∀ q < W, q < 65536 := by
      intro q hq
      have hpos : 0 < ids.countP fun id => decide (L ≤ id ∧ (id - L) % 65536 = q) := by
        rw [hwan q hq]
        exact Nat.one_pos
      obtain ⟨id, -, hid⟩ := List.countP_pos_iff.mp hpos
      have hid' := of_decide_eq_true hid
      omega
    have hL : L ≤ 65536 := by
      by_contra hbig
      exact absurd (hlan' 65536 (by omega)) (by decide)
    have hW : W ≤ 65536 := by
      by_contra hbig
      exact absurd (hwan' 65536 (by omega)) (by decide)
    refine ⟨fun id hid => ?_, hL, hW⟩
    by_cases hside : id < L
    · refine (countP_eq_one_iff hnodup fun id' _ => ?_).mp (hlan id hside)
      rw [decide_eq_true_eq]
      omega
    · refine (countP_eq_one_iff hnodup fun id' hid' => ?_).mp (hwan (id - L) (by omega))
      have hlt' := hlt id' hid'
      rw [decide_eq_true_eq]
      omega
  · rintro ⟨hall, hL, hW⟩
    refine ⟨fun q hq => ?_, fun q hq => ?_, hnodup⟩
    · refine (countP_eq_one_iff hnodup fun id _ => ?_).mpr (hall q (by omega))
      rw [decide_eq_true_eq]
      omega
    · refine (countP_eq_one_iff hnodup fun id hid => ?_).mpr (hall (L + q) (by omega))
      have hlt' := hlt id hid
      rw [decide_eq_true_eq]
      omega

end Coverage

end RdmaGateway.Gateway
