/-
  Dpdk/Io.lean --- the DPDK calls the gateway makes, as effects on an explicit
  record.

  The gateway's own functions decide nothing about the outside: whether a
  transmit queue has room, whether the pool has a buffer left and what the time
  stamp counter reads are answers it receives.  `Oracle` holds those answers,
  indexed by the number of the call, so that quantifying over oracles quantifies
  over every pattern of success and failure.  `Io` adds the call counters and
  the trace of what the gateway did with its buffers.

  The buffer type `μ` stays a parameter: the window and the reassembly buffer
  move packets around without looking into them.
-/
import Mathlib.Algebra.Order.Ring.Nat
import Mathlib.Data.List.Basic

set_option autoImplicit false

namespace RdmaGateway.Dpdk

/-- The two roles a port number is passed in: `lan_port` and `wan_port`. -/
inductive Port where
  | lan
  | wan
  deriving DecidableEq, Repr, Inhabited

/-- What the gateway does with a buffer. -/
inductive Event (μ : Type) where
  /-- `rte_pktmbuf_alloc` that returned a buffer -/
  | alloc (m : μ)
  /-- `rte_pktmbuf_free` -/
  | free (m : μ)
  /-- `rte_pktmbuf_refcnt_update` -/
  | refcntUpdate (m : μ) (delta : Int)
  /-- `rte_eth_tx_burst` of one packet on queue 0; `accepted` is the return value -/
  | txBurst (port : Port) (m : μ) (accepted : Bool)

/-- The answers of the environment, by call number. -/
structure Oracle (μ : Type) where
  /-- does the `n`-th `rte_eth_tx_burst`, if it is on this port, take its packet -/
  txAccepts : Port → Nat → Bool
  /-- the buffer the `n`-th `rte_pktmbuf_alloc` returns, with whatever it last held -/
  allocs : Nat → Option μ
  /-- the `n`-th reading of `rte_rdtsc` -/
  tsc : Nat → Nat
  /-- `rte_get_timer_hz` -/
  timerHz : Nat

/-- The environment together with what has happened so far. -/
structure Io (μ : Type) where
  oracle : Oracle μ
  txCount : Nat
  allocCount : Nat
  tscCount : Nat
  trace : List (Event μ)

variable {μ : Type}

/-- Nothing has happened yet. -/
def Io.start (oracle : Oracle μ) : Io μ := ⟨oracle, 0, 0, 0, []⟩

/-- An environment that takes every packet, returns the same buffer (or none)
for every allocation and whose clock of 1000 Hz advances by a hundred cycles
with every reading. -/
def Oracle.accepting (buffer : Option μ) : Oracle μ :=
  ⟨fun _ _ => true, fun _ => buffer, fun n => 100 * n, 1000⟩

/-- Record one event. -/
def Io.record (io : Io μ) (e : Event μ) : Io μ := { io with trace := io.trace ++ [e] }

/-- `rte_pktmbuf_free`. -/
def rtePktmbufFree (m : μ) (io : Io μ) : Io μ := io.record (.free m)

/-- `rte_pktmbuf_refcnt_update`. -/
def rtePktmbufRefcntUpdate (m : μ) (delta : Int) (io : Io μ) : Io μ :=
  io.record (.refcntUpdate m delta)

/-- `rte_eth_tx_burst(port, 0, &m, 1)`; `true` when the one packet was taken. -/
def rteEthTxBurst (port : Port) (m : μ) (io : Io μ) : Bool × Io μ :=
  let accepted := io.oracle.txAccepts port io.txCount
  (accepted, { io with txCount := io.txCount + 1 }.record (.txBurst port m accepted))

/-- `rte_rdtsc`. -/
def rteRdtsc (io : Io μ) : Nat × Io μ :=
  (io.oracle.tsc io.tscCount, { io with tscCount := io.tscCount + 1 })

/-- `rte_pktmbuf_alloc`. -/
def rtePktmbufAlloc (io : Io μ) : Option μ × Io μ :=
  let m := io.oracle.allocs io.allocCount
  let io := { io with allocCount := io.allocCount + 1 }
  (m, m.elim io fun m => io.record (.alloc m))

/-! ## What one call adds to the trace -/

section Effects

variable (m : μ) (io : Io μ)

@[simp] theorem record_trace (e : Event μ) : (io.record e).trace = io.trace ++ [e] := rfl
@[simp] theorem record_oracle (e : Event μ) : (io.record e).oracle = io.oracle := rfl

@[simp] theorem rtePktmbufFree_trace :
    (rtePktmbufFree m io).trace = io.trace ++ [.free m] := rfl
@[simp] theorem rtePktmbufFree_oracle : (rtePktmbufFree m io).oracle = io.oracle := rfl

@[simp] theorem rtePktmbufRefcntUpdate_trace (d : Int) :
    (rtePktmbufRefcntUpdate m d io).trace = io.trace ++ [.refcntUpdate m d] := rfl
@[simp] theorem rtePktmbufRefcntUpdate_oracle (d : Int) :
    (rtePktmbufRefcntUpdate m d io).oracle = io.oracle := rfl

@[simp] theorem rteEthTxBurst_trace (port : Port) :
    (rteEthTxBurst port m io).2.trace =
      io.trace ++ [.txBurst port m (rteEthTxBurst port m io).1] := rfl
@[simp] theorem rteEthTxBurst_oracle (port : Port) :
    (rteEthTxBurst port m io).2.oracle = io.oracle := rfl

@[simp] theorem rteRdtsc_trace : (rteRdtsc io).2.trace = io.trace := rfl
@[simp] theorem rteRdtsc_oracle : (rteRdtsc io).2.oracle = io.oracle := rfl

@[simp] theorem rtePktmbufAlloc_trace :
    (rtePktmbufAlloc io).2.trace = io.trace ++ (rtePktmbufAlloc io).1.toList.map .alloc := by
  unfold rtePktmbufAlloc
  cases io.oracle.allocs io.allocCount <;> simp
@[simp] theorem rtePktmbufAlloc_oracle : (rtePktmbufAlloc io).2.oracle = io.oracle := by
  unfold rtePktmbufAlloc
  cases io.oracle.allocs io.allocCount <;> rfl

end Effects

end RdmaGateway.Dpdk
