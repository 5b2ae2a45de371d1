/-
  Gateway/MainLoops.lean --- the loops that make the calls (`lan_main_loop`,
  `wan_main_loop` and `signal_handler` of `src/main.c`).

  Every core owns one RX queue and one processor context, and runs its loop at its own
  pace: it tests `g_running`, polls a burst, processes it packet by packet, on the WAN side
  looks at the clock, and starts again.  A step of the gateway is one step of one core, the
  arrival of a packet or a signal, in any order; the test and the poll are two steps, and a
  signal may fall between them.  What a driver returns for
  a poll and what the clock reads are part of the input.

  The loops add nothing to the calls and lose nothing of what arrives: the cores are
  where a run of `Cores.step` puts them, and what a core processed, has in hand and has
  queued is what arrived at its queue, in that order (`loops_process_arrivals`).
-/
import RdmaGateway.Foundation.Pacing
import RdmaGateway.Gateway.Cores

set_option autoImplicit false

namespace RdmaGateway.Gateway

open RdmaGateway.Foundation
open RdmaGateway.Dpdk
open RdmaGateway.Wire
open RdmaGateway.Tunnel
open RdmaGateway.Processor

variable {L W : Nat}

/-! ## The loops -/

/-- `BURST_SIZE` -/
def burstSize : Nat := 32
/-- `APP_TIMER_INTERVAL_MS` -/
def appTimerIntervalMs : Nat := 10

/-- A core, by the side it serves. -/
inductive CoreId (L W : Nat) where
  | lan (i : Fin L)
  | wan (j : Fin W)
  deriving DecidableEq

/-- The call that processes a received packet. -/
def CoreId.rx : CoreId L W → Mbuf → CoreCall L W
  | .lan i, m => .lanRx i m
  | .wan j, m => .wanRx j m

/-- Where a loop stands. -/
inductive LoopPc where
  /-- at `while (g_running)` -/
  | test
  /-- at `rte_eth_rx_burst`, after `g_running` was found set -/
  | poll
  /-- in the `for` loop, with these packets still to process -/
  | burst (bufs : List Mbuf)
  /-- returned -/
  | exited

/-- The packets of the burst that are still to process. -/
def LoopPc.inHand : LoopPc → List Mbuf
  | .burst bufs => bufs
  | _ => []

/-- The variables of one loop; the timer's are used on the WAN side only. -/
structure LoopState where
  pc : LoopPc
  timerInterval : Nat
  lastTimer : Nat

/-- The gateway with its loops and RX queues. -/
structure Loops (L W : Nat) where
  cores : Cores L W
  loop : CoreId L W → LoopState
  queue : CoreId L W → List Mbuf
  running : Bool

/-- What happens next. -/
inductive LoopInput (L W : Nat) where
  /-- the NIC puts a packet into the RX queue of a core -/
  | arrive (c : CoreId L W) (m : Mbuf)
  /-- a signal is delivered -/
  | signal (signum : Nat)
  /-- a core takes its next step; a poll returns at most `nbRx` packets, and the clock
  reads `current` -/
  | advance (c : CoreId L W) (nbRx current : Nat)

/-- `timer_interval` -/
def timerInterval (host : Host) : Nat := host.io.oracle.timerHz * appTimerIntervalMs / 1000

/-- The gateway when `main` has launched the loops: `started` is what each WAN loop read
for `last_timer`. -/
def Loops.init (L W : Nat) (host : Host) (started : CoreId L W → Nat) : Loops L W :=
  ⟨.init L W host, fun c => ⟨.test, timerInterval host, started c⟩, fun _ => [], true⟩

/-- `signal_handler`; `SIGINT` is 2 and `SIGTERM` is 15. -/
def signalHandler (running : Bool) (signum : Nat) : Bool :=
  if signum = 2 ∨ signum = 15 then false else running

/-- Put core `c` somewhere else in its loop. -/
def Loops.goto (s : Loops L W) (c : CoreId L W) (pc : LoopPc) : Loops L W :=
  { s with loop := Function.update s.loop c { s.loop c with pc := pc } }

/-- The poll of core `c`: `rte_eth_rx_burst` of up to `BURST_SIZE` packets. -/
def Loops.poll (s : Loops L W) (c : CoreId L W) (nbRx : Nat) : Loops L W :=
  let n := min nbRx burstSize
  { s.goto c (.burst ((s.queue c).take n)) with
    queue := Function.update s.queue c ((s.queue c).drop n) }

/-- Is the timer of core `c` due at this reading. -/
def Loops.timerDue (s : Loops L W) (c : CoreId L W) (current : Nat) : Prop :=
  (s.loop c).timerInterval ≤ sub64 current (s.loop c).lastTimer

instance (s : Loops L W) (c : CoreId L W) (current : Nat) : Decidable (s.timerDue c current) :=
  inferInstanceAs (Decidable (_ ≤ _))

/-- The end of a round: a WAN core makes its timer callback when it is due. -/
def Loops.finishRound (s : Loops L W) (c : CoreId L W) (current : Nat) : Loops L W :=
  match c with
  | .lan _ => s.goto c .test
  | .wan j =>
    if s.timerDue c current then
      { s with
        cores := s.cores.step (.timer j)
        loop := Function.update s.loop c { s.loop c with pc := .test, lastTimer := current } }
    else s.goto c .test

/-- One step of the loop of core `c`. -/
def Loops.advance (s : Loops L W) (c : CoreId L W) (nbRx current : Nat) : Loops L W :=
  match (s.loop c).pc with
  | .test => s.goto c (if s.running then .poll else .exited)
  | .poll => s.poll c nbRx
  | .burst [] => s.finishRound c current
  | .burst (m :: bufs) => { s.goto c (.burst bufs) with cores := s.cores.step (c.rx m) }
  | .exited => s

/-- One step of the gateway. -/
def Loops.step (s : Loops L W) : LoopInput L W → Loops L W
  | .arrive c m => { s with queue := Function.update s.queue c (s.queue c ++ [m]) }
  | .signal signum => { s with running := signalHandler s.running signum }
  | .advance c nbRx current => s.advance c nbRx current

/-! ## What a step does -/

/-- The call that core `c` makes in its next step, if it makes one. -/
def Loops.callOf (s : Loops L W) (c : CoreId L W) (current : Nat) : Option (CoreCall L W) :=
  match (s.loop c).pc, c with
  | .burst (m :: _), c => some (c.rx m)
  | .burst [], .wan j => if s.timerDue (.wan j) current then some (.timer j) else none
  | _, _ => none

/-- The call that a step makes, if it makes one. -/
def Loops.call (s : Loops L W) : LoopInput L W → Option (CoreCall L W)
  | .advance c _ current => s.callOf c current
  | _ => none

/-- The calls of a run, in order. -/
def loopCalls (s : Loops L W) : List (LoopInput L W) → List (CoreCall L W)
  | [] => []
  | x :: xs => (s.call x).toList ++ loopCalls (s.step x) xs

/-- The packets that calls hand to core `c`. -/
def processed (c : CoreId L W) (calls : List (CoreCall L W)) : List Mbuf :=
  calls.filterMap fun
    | .lanRx i m => if c = .lan i then some m else none
    | .wanRx j m => if c = .wan j then some m else none
    | .timer _ => none

/-- The packets that arrive at the queue of core `c`. -/
def arrivals (c : CoreId L W) (xs : List (LoopInput L W)) : List Mbuf :=
  xs.filterMap fun
    | .arrive c' m => if c = c' then some m else none
    | _ => none

/-- What has arrived at core `c` and is not processed: the rest of the burst, and the
queue. -/
def Loops.pending (s : Loops L W) (c : CoreId L W) : List Mbuf :=
  (s.loop c).pc.inHand ++ s.queue c

theorem processed_append (c : CoreId L W) (xs ys : List (CoreCall L W)) :
    processed c (xs ++ ys) = processed c xs ++ processed c ys :=
  List.filterMap_append

theorem processed_rx (c c' : CoreId L W) (m : Mbuf) :
    processed c [c'.rx m] = if c = c' then [m] else [] := by
  cases c' <;> simp only [CoreId.rx, processed, List.filterMap_cons, List.filterMap_nil] <;>
    split_ifs <;> rfl

/-- The cases of a step of core `c`, with the call it makes. -/
inductive Advances (s : Loops L W) (c : CoreId L W) (nbRx current : Nat) :
    Option (CoreCall L W) → Loops L W → Prop
  | entered (hpc : (s.loop c).pc = .test) (hrun : s.running = true) :
      Advances s c nbRx current none (s.goto c .poll)
  | stopped (hpc : (s.loop c).pc = .test) (hrun : s.running = false) :
      Advances s c nbRx current none (s.goto c .exited)
  | polled (hpc : (s.loop c).pc = .poll) : Advances s c nbRx current none (s.poll c nbRx)
  | processed {m : Mbuf} {bufs : List Mbuf} (hpc : (s.loop c).pc = .burst (m :: bufs)) :
      Advances s c nbRx current (some (c.rx m))
        { s.goto c (.burst bufs) with cores := s.cores.step (c.rx m) }
  | ended (hpc : (s.loop c).pc = .burst [])
      (hwait : ∀ j : Fin W, c = .wan j → ¬ s.timerDue c current) :
      Advances s c nbRx current none (s.goto c .test)
  | ticked {j : Fin W} (hc : c = .wan j) (hpc : (s.loop c).pc = .burst [])
      (hdue : s.timerDue c current) :
      Advances s c nbRx current (some (.timer j))
        { s with
          cores := s.cores.step (.timer j)
          loop := Function.update s.loop c { s.loop c with pc := .test, lastTimer := current } }
  | idle (hpc : (s.loop c).pc = .exited) : Advances s c nbRx current none s

theorem advance_cases (s : Loops L W) (c : CoreId L W) (nbRx current : Nat) :
    Advances s c nbRx current (s.callOf c current) (s.advance c nbRx current) := by
  cases hpc : (s.loop c).pc with
  | test =>
    cases hrun : s.running with
    | true =>
      have hcases : Advances s c nbRx current _ _ := .entered hpc hrun
      simpa [Loops.advance, Loops.callOf, hpc, hrun] using hcases
    | false =>
      have hcases : Advances s c nbRx current _ _ := .stopped hpc hrun
      simpa [Loops.advance, Loops.callOf, hpc, hrun] using hcases
  | poll =>
    have hcases : Advances s c nbRx current _ _ := .polled hpc
    simpa [Loops.advance, Loops.callOf, hpc] using hcases
  | burst bufs =>
    cases bufs with
    | cons m bufs =>
      have hcases : Advances s c nbRx current _ _ := .processed hpc
      simpa [Loops.advance, Loops.callOf, hpc] using hcases
    | nil =>
      cases c with
      | lan i =>
        have hcases : Advances s (.lan i) nbRx current _ _ := .ended hpc fun j hj => by cases hj
        simpa [Loops.advance, Loops.callOf, Loops.finishRound, hpc] using hcases
      | wan j =>
        by_cases hdue : s.timerDue (.wan j) current
        · have hcases : Advances s (.wan j) nbRx current _ _ := .ticked rfl hpc hdue
          simpa [Loops.advance, Loops.callOf, Loops.finishRound, hpc, hdue] using hcases
        · have hcases : Advances s (.wan j) nbRx current _ _ := .ended hpc fun _ _ => hdue
          simpa [Loops.advance, Loops.callOf, Loops.finishRound, hpc, hdue] using hcases
  | exited =>
    have hcases : Advances s c nbRx current _ _ := .idle hpc
    simpa [Loops.advance, Loops.callOf, hpc] using hcases

/-! ## The cores -/

/-- The cores are where the call puts them. -/
theorem step_cores (s : Loops L W) (x : LoopInput L W) :
    (s.step x).cores = (s.call x).elim s.cores s.cores.step := by
  cases x with
  | arrive c m => rfl
  | signal signum => rfl
  | advance c nbRx current =>
    have hcases := advance_cases s c nbRx current
    rw [Loops.step, Loops.call]
    generalize s.callOf c current = call, s.advance c nbRx current = s' at hcases
    cases hcases <;> rfl

/-- Across a run of the loops the cores go through a run of calls. -/
theorem loops_cores (s : Loops L W) (xs : List (LoopInput L W)) :
    (run Loops.step s xs).cores = run Cores.step s.cores (loopCalls s xs) := by
  induction xs generalizing s with
  | nil => rfl
  | cons x xs ih =>
    rw [run_cons, ih, loopCalls, run_append, step_cores]
    cases s.call x <;> rfl

/-! ## The packets -/

/-- The state of another core is not touched. -/
theorem advance_of_ne {s : Loops L W} {c c' : CoreId L W} (hne : c' ≠ c) (nbRx current : Nat) :
    (s.advance c nbRx current).loop c' = s.loop c' ∧
      (s.advance c nbRx current).queue c' = s.queue c' := by
  have hcases := advance_cases s c nbRx current
  generalize s.callOf c current = call, s.advance c nbRx current = s' at hcases
  cases hcases <;> simp [Loops.poll, Loops.goto, hne]

/-- A core processes the first of its pending packets, or none. -/
theorem advance_pending (s : Loops L W) (c : CoreId L W) (nbRx current : Nat) :
    processed c (s.callOf c current).toList ++ (s.advance c nbRx current).pending c =
      s.pending c := by
  have hcases := advance_cases s c nbRx current
  generalize s.callOf c current = call, s.advance c nbRx current = s' at hcases
  cases hcases with
  | entered hpc _ => simp [Loops.pending, Loops.goto, hpc, LoopPc.inHand, processed]
  | stopped hpc _ => simp [Loops.pending, Loops.goto, hpc, LoopPc.inHand, processed]
  | polled hpc => simp [Loops.pending, Loops.poll, Loops.goto, hpc, LoopPc.inHand, processed]
  | processed hpc =>
    rw [Option.toList_some, processed_rx, if_pos rfl]
    simp [Loops.pending, Loops.goto, hpc, LoopPc.inHand]
  | ended hpc _ => simp [Loops.pending, Loops.goto, hpc, LoopPc.inHand, processed]
  | ticked hc hpc _ => simp [Loops.pending, hpc, LoopPc.inHand, processed]
  | idle hpc => simp [Loops.pending, processed]

/-- A call of another core hands no packet to core `c`. -/
theorem processed_callOf_of_ne (s : Loops L W) {c c' : CoreId L W} (hne : c' ≠ c)
    (nbRx current : Nat) : processed c' (s.callOf c current).toList = [] := by
  have hcases := advance_cases s c nbRx current
  generalize s.callOf c current = call, s.advance c nbRx current = s' at hcases
  cases hcases with
  | processed hpc => rw [Option.toList_some, processed_rx, if_neg hne]
  | _ => rfl

/-- One step: what is processed comes off the front of what is pending, what arrives is
added to its end. -/
theorem step_pending (s : Loops L W) (x : LoopInput L W) (c : CoreId L W) :
    processed c (s.call x).toList ++ (s.step x).pending c = s.pending c ++ arrivals c [x] := by
  cases x with
  | arrive c' m =>
    by_cases hc : c = c'
    · subst hc
      simp [Loops.call, Loops.step, Loops.pending, processed, arrivals]
    · simp [Loops.call, Loops.step, Loops.pending, processed, arrivals, hc]
  | signal signum => simp [Loops.call, Loops.step, Loops.pending, processed, arrivals]
  | advance c' nbRx current =>
    have hnone : arrivals c [LoopInput.advance c' nbRx current] = [] := rfl
    rw [hnone, List.append_nil, Loops.call, Loops.step]
    by_cases hc : c = c'
    · subst hc
      exact advance_pending s c nbRx current
    · obtain ⟨hloop, hqueue⟩ := advance_of_ne (s := s) hc nbRx current
      rw [processed_callOf_of_ne s hc nbRx current, List.nil_append, Loops.pending, hloop, hqueue]
      rfl

theorem run_pending (s : Loops L W) (xs : List (LoopInput L W)) (c : CoreId L W) :
    processed c (loopCalls s xs) ++ (run Loops.step s xs).pending c =
      s.pending c ++ arrivals c xs := by
  induction xs generalizing s with
  | nil => simp [loopCalls, processed, arrivals]
  | cons x xs ih =>
    have hsplit : arrivals c (x :: xs) = arrivals c [x] ++ arrivals c xs :=
      List.filterMap_append (l := [x])
    rw [run_cons, loopCalls, processed_append, List.append_assoc, ih, ← List.append_assoc,
      step_pending, hsplit, List.append_assoc]

/-- In every run of the main loops, however their steps, the arrivals and the signals
interleave, the cores are where a run of calls puts them, and each core has processed what
arrived at its queue, once each and in the order of arrival, up to what it has in hand and
what is queued. -/
theorem loops_process_arrivals (host : Host) (started : CoreId L W → Nat)
    (xs : List (LoopInput L W)) :
    (run Loops.step (Loops.init L W host started) xs).cores =
        run Cores.step (Cores.init L W host) (loopCalls (Loops.init L W host started) xs) ∧
      ∀ c, processed c (loopCalls (Loops.init L W host started) xs) ++
          (run Loops.step (Loops.init L W host started) xs).pending c = arrivals c xs :=
  ⟨loops_cores _ xs, fun c => run_pending (Loops.init L W host started) xs c⟩

/-! ## The timer -/

/-- Only the end of a round is left. -/
def LoopPc.roundEnds : LoopPc → Bool
  | .burst bufs => bufs.isEmpty
  | _ => false

/-- What the clock reads in a step that ends a round of WAN core `j`. -/
def Loops.look (s : Loops L W) (j : Fin W) : LoopInput L W → Option Nat
  | .advance c _ current =>
    if c = .wan j ∧ (s.loop c).pc.roundEnds = true then some current else none
  | _ => none

/-- The readings at the ends of the rounds of WAN core `j`. -/
def looks (j : Fin W) (s : Loops L W) : List (LoopInput L W) → List Nat
  | [] => []
  | x :: xs => (s.look j x).toList ++ looks j (s.step x) xs

/-- A timer callback of WAN core `j`. -/
def CoreCall.isTimerOf (j : Fin W) : CoreCall L W → Bool
  | .timer j' => decide (j' = j)
  | _ => false

/-- The readings at which WAN core `j` makes its timer callback. -/
def ticks (j : Fin W) (s : Loops L W) : List (LoopInput L W) → List Nat
  | [] => []
  | x :: xs =>
    (if (s.call x).any (CoreCall.isTimerOf j) then (s.look j x).toList else []) ++
      ticks j (s.step x) xs

theorem isTimerOf_rx (j : Fin W) (c : CoreId L W) (m : Mbuf) :
    CoreCall.isTimerOf j (c.rx m) = false := by
  cases c <;> rfl

/-- A step for the timer of WAN core `j`: it looks at no clock, or it looks and finds the
timer due or not. -/
inductive Looks (s : Loops L W) (j : Fin W) (x : LoopInput L W) : Prop
  | none (hlook : s.look j x = none) (hcall : (s.call x).any (CoreCall.isTimerOf j) = false)
      (hlast : ((s.step x).loop (.wan j)).lastTimer = (s.loop (.wan j)).lastTimer)
  | waits {t : Nat} (hlook : s.look j x = some t)
      (hcall : (s.call x).any (CoreCall.isTimerOf j) = false) (hwait : ¬ s.timerDue (.wan j) t)
      (hlast : ((s.step x).loop (.wan j)).lastTimer = (s.loop (.wan j)).lastTimer)
  | ticks {t : Nat} (hlook : s.look j x = some t)
      (hcall : (s.call x).any (CoreCall.isTimerOf j) = true) (hdue : s.timerDue (.wan j) t)
      (hlast : ((s.step x).loop (.wan j)).lastTimer = t)

theorem look_cases (s : Loops L W) (j : Fin W) (x : LoopInput L W) : Looks s j x := by
  cases x with
  | arrive c m => exact .none rfl rfl rfl
  | signal signum => exact .none rfl rfl rfl
  | advance c nbRx current =>
    have hcases := advance_cases s c nbRx current
    have hlook : s.look j (.advance c nbRx current) =
        if c = .wan j ∧ (s.loop c).pc.roundEnds = true then some current else none := rfl
    by_cases hc : c = .wan j
    · subst hc
      generalize hcall : s.callOf (.wan j) current = call,
        hnext : s.advance (.wan j) nbRx current = s' at hcases
      have hstep : (s.step (.advance (.wan j) nbRx current)) = s' := hnext
      have hmade : s.call (.advance (.wan j) nbRx current) = call := hcall
      cases hcases with
      | entered hpc _ | stopped hpc _ =>
        exact .none (by simp [hlook, hpc, LoopPc.roundEnds]) (by rw [hmade]; rfl)
          (by rw [hstep]; simp [Loops.goto])
      | polled hpc =>
        exact .none (by simp [hlook, hpc, LoopPc.roundEnds]) (by rw [hmade]; rfl)
          (by rw [hstep]; simp [Loops.poll, Loops.goto])
      | processed hpc =>
        exact .none (by simp [hlook, hpc, LoopPc.roundEnds])
          (by rw [hmade, Option.any_some, isTimerOf_rx])
          (by rw [hstep]; simp [Loops.goto])
      | ended hpc hwait =>
        exact .waits (by simp [hlook, hpc, LoopPc.roundEnds]) (by rw [hmade]; rfl) (hwait j rfl)
          (by rw [hstep]; simp [Loops.goto])
      | ticked hc hpc hdue =>
        cases hc
        exact .ticks (by simp [hlook, hpc, LoopPc.roundEnds])
          (by rw [hmade]; simp [CoreCall.isTimerOf]) hdue (by rw [hstep]; simp)
      | idle hpc =>
        exact .none (by simp [hlook, hpc, LoopPc.roundEnds]) (by rw [hmade]; rfl)
          (by rw [hstep])
    · refine .none (by simp [hlook, hc]) ?_ ?_
      · rw [Loops.call]
        generalize s.callOf c current = call, s.advance c nbRx current = s' at hcases
        cases hcases with
        | processed hpc => rw [Option.any_some, isTimerOf_rx]
        | @ticked j' hc' _ _ =>
          have hj : j' ≠ j := fun h => hc (by rw [hc', h])
          simp [CoreCall.isTimerOf, hj]
        | _ => rfl
      · rw [Loops.step, (advance_of_ne (fun h => hc h.symm) nbRx current).1]

/-- No step changes the interval of a loop. -/
theorem step_timerInterval (s : Loops L W) (x : LoopInput L W) (c : CoreId L W) :
    ((s.step x).loop c).timerInterval = (s.loop c).timerInterval := by
  cases x with
  | arrive c' m => rfl
  | signal signum => rfl
  | advance c' nbRx current =>
    by_cases hc : c = c'
    · subst hc
      have hcases := advance_cases s c nbRx current
      rw [Loops.step]
      generalize s.callOf c current = call, s.advance c nbRx current = s' at hcases
      cases hcases <;> simp [Loops.poll, Loops.goto]
    · rw [Loops.step, (advance_of_ne hc nbRx current).1]

/-- With a clock that runs forward, core `j` makes its callbacks at the looks at which a
timer with its interval goes off. -/
theorem ticks_eq_goesOff (s : Loops L W) (xs : List (LoopInput L W)) (j : Fin W)
    (hclock : ((s.loop (.wan j)).lastTimer :: looks j s xs).Pairwise (· ≤ ·))
    (hlt : ∀ t ∈ looks j s xs, t < 18446744073709551616) :
    ticks j s xs = goesOff (s.loop (.wan j)).timerInterval (s.loop (.wan j)).lastTimer
      (looks j s xs) := by
  induction xs generalizing s with
  | nil => rfl
  | cons x xs ih =>
    have hinterval := step_timerInterval s x (.wan j)
    cases look_cases s j x with
    | none hlook hcall hlast =>
      simp only [looks, ticks, hlook, hcall, Option.toList_none, List.nil_append] at hclock hlt ⊢
      rw [← hlast] at hclock
      rw [← hlast, ← hinterval]
      exact ih (s.step x) hclock hlt
    | @waits t hlook hcall hwait hlast =>
      simp only [looks, ticks, hlook, hcall, Option.toList_some, List.singleton_append]
        at hclock hlt ⊢
      obtain ⟨hfirst, hrest⟩ := List.pairwise_cons.mp hclock
      rw [Loops.timerDue, sub64_of_le (hlt t List.mem_cons_self) (hfirst t List.mem_cons_self)]
        at hwait
      rw [goesOff, if_neg hwait, ← hlast, ← hinterval]
      refine ih (s.step x) ?_ fun u hu => hlt u (List.mem_cons_of_mem t hu)
      rw [hlast]
      exact List.pairwise_cons.mpr ⟨fun u hu => hfirst u (List.mem_cons_of_mem t hu),
        (List.pairwise_cons.mp hrest).2⟩
    | @ticks t hlook hcall hdue hlast =>
      simp only [looks, ticks, hlook, hcall, Option.toList_some, List.singleton_append, if_true]
        at hclock hlt ⊢
      obtain ⟨hfirst, hrest⟩ := List.pairwise_cons.mp hclock
      rw [Loops.timerDue, sub64_of_le (hlt t List.mem_cons_self) (hfirst t List.mem_cons_self)]
        at hdue
      rw [goesOff, if_pos hdue, List.cons.injEq]
      refine ⟨rfl, ?_⟩
      rw [← hlast] at hrest
      have htail := ih (s.step x) hrest fun u hu => hlt u (List.mem_cons_of_mem t hu)
      rwa [hlast, hinterval] at htail

/-- There is one such reading for every timer call. -/
theorem ticks_length (s : Loops L W) (xs : List (LoopInput L W)) (j : Fin W) :
    (ticks j s xs).length = (loopCalls s xs).countP (CoreCall.isTimerOf j) := by
  induction xs generalizing s with
  | nil => rfl
  | cons x xs ih =>
    rw [ticks, loopCalls, List.length_append, List.countP_append, ih, Nat.add_right_cancel_iff]
    cases look_cases s j x with
    | none hlook hcall _ => cases hmade : s.call x <;> simp_all
    | waits hlook hcall _ _ => cases hmade : s.call x <;> simp_all
    | ticks hlook hcall _ _ => cases hmade : s.call x <;> simp_all

/-- On a clock that runs forward the timer callbacks of a WAN core are at least
`timer_interval` apart, and whenever the core ends a round the last one, or the start of
the loop, is less than `timer_interval` ago. -/
theorem timer_callbacks_paced (host : Host) (started : CoreId L W → Nat)
    (xs : List (LoopInput L W)) (j : Fin W)
    (hclock : (started (.wan j) :: looks j (Loops.init L W host started) xs).Pairwise (· ≤ ·))
    (hlt : ∀ t ∈ looks j (Loops.init L W host started) xs, t < 18446744073709551616) :
    (ticks j (Loops.init L W host started) xs).length =
        (loopCalls (Loops.init L W host started) xs).countP (CoreCall.isTimerOf j) ∧
      (started (.wan j) :: ticks j (Loops.init L W host started) xs).Pairwise
        (fun a b => a + timerInterval host ≤ b) ∧
      ∀ t ∈ looks j (Loops.init L W host started) xs,
        ∃ u ∈ started (.wan j) :: ticks j (Loops.init L W host started) xs,
          u ≤ t ∧ (u = t ∨ t < u + timerInterval host) := by
  refine ⟨ticks_length _ xs j, ?_⟩
  rw [ticks_eq_goesOff (Loops.init L W host started) xs j hclock hlt]
  exact ⟨goesOff_paced hclock, fun t ht => goesOff_recent hclock ht⟩

/-- One WAN core at 1000 Hz goes round at 5, 12, 13 and 25 cycles and makes its callback at
12 and at 25. -/
theorem timer_callbacks_paced_four_rounds :
    ticks 0 (Loops.init 0 1 .unloaded fun _ => 0)
        ([5, 12, 13, 25].flatMap fun t =>
          [.advance (.wan 0) 0 t, .advance (.wan 0) 0 t, .advance (.wan 0) 0 t]) =
      [12, 25] ∧
    (0 :: ticks 0 (Loops.init 0 1 .unloaded fun _ => 0)
        ([5, 12, 13, 25].flatMap fun t =>
          [.advance (.wan 0) 0 t, .advance (.wan 0) 0 t, .advance (.wan 0) 0 t])).Pairwise
      (fun a b => a + timerInterval .unloaded ≤ b) := by
  refine ⟨by decide +kernel, ?_⟩
  exact (timer_callbacks_paced .unloaded (fun _ => 0) _ 0 (by decide +kernel)
    (by decide +kernel)).2.1

/-! ## Shutting down -/

end RdmaGateway.Gateway
