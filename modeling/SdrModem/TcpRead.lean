import SdrModem.Memcpy
import SdrModem.TcpUtils

/-!
# A read with its memory

`tcp_utils_read_data` once more, with the memory it writes to: `recv` stores its bytes at a
place that both loops compute from what is left, and a write outside of `result` is a
fault.  The memory never is more than a picture of the bytes that were read, so this is the
read of `TcpUtils` (`readDataInto_eq`).

A `RecvResult` is what one call of `recv` has returned, and `Recvs` says which results a
socket allows.  What a read returns says honestly what its calls of `recv` have returned.
-/
namespace SdrModem
open Memcpy

/-- Why a read does not return. -/
inductive ReadFault where
  /-- `recv` does not return -/
  | blocked
  /-- a write outside of `result` -/
  | overrun
deriving DecidableEq, Repr

/-- What `tcp_utils_read_data_partially` leaves behind. -/
structure ReadInto where
  code : Int
  actuallyRead : Nat
  memory : List UInt8
  socket : List Recv

/-- `tcp_utils_read_data_partially` for `len` bytes at `start`, with what is left of them. -/
def tcpUtilsReadDataPartiallyInto (start len : Nat) :
    Nat → List UInt8 → List Recv → Except ReadFault ReadInto
  | 0, memory, s => .ok ⟨0, len, memory, s⟩
  | _ + 1, _, [] => .error .blocked
  | left + 1, memory, .data b bs :: s =>
      match memcpyAt memory (start + (len - (left + 1))) ((b :: bs).take (left + 1)) with
      | none => .error .overrun
      | some memory =>
        if left ≤ bs.length then .ok ⟨0, len, memory, pushBack (bs.drop left) s⟩
        else tcpUtilsReadDataPartiallyInto start len (left - bs.length) memory s
  | left + 1, memory, .timeout :: s => .ok ⟨-eagain, len - (left + 1), memory, s⟩
  | left + 1, memory, .eintr :: s => tcpUtilsReadDataPartiallyInto start len (left + 1) memory s
  | left + 1, memory, .closed :: s => .ok ⟨-1, len - (left + 1), memory, .closed :: s⟩
  | left + 1, memory, .error :: s => .ok ⟨-1, len - (left + 1), memory, s⟩

/-- The loop of `tcp_utils_read_data`. -/
def tcpUtilsReadDataLoopInto (len : Nat) :
    Nat → Nat → Nat → List UInt8 → List Recv → Except ReadFault (Int × List UInt8 × List Recv)
  | 0, _, _, _, _ => .error .blocked
  | fuel + 1, totalRead, stalledTimeouts, memory, s =>
      (tcpUtilsReadDataPartiallyInto totalRead (len - totalRead) (len - totalRead) memory s).bind
        fun r =>
          let totalRead := totalRead + r.actuallyRead
          if r.code = 0 then .ok (0, r.memory, r.socket)
          else if r.code = -1 then .ok (-1, r.memory, r.socket)
          else if totalRead = 0 then .ok (r.code, r.memory, r.socket)
          else
            let stalledTimeouts := if r.actuallyRead > 0 then 0 else stalledTimeouts + 1
            if stalledTimeouts ≥ maxStalledTimeouts then .ok (-1, r.memory, r.socket)
            else tcpUtilsReadDataLoopInto len fuel totalRead stalledTimeouts r.memory r.socket

/-- `tcp_utils_read_data` into all of a memory. -/
def tcpUtilsReadDataInto (memory : List UInt8) (s : List Recv) :
    Except ReadFault (Int × List UInt8 × List Recv) :=
  tcpUtilsReadDataLoopInto memory.length (s.length + 1) 0 0 memory s

/-! ## The memory shows what was read -/

/-- **A partial read with its memory.** -/
theorem readDataPartiallyInto_eq {start len left : Nat} (hleft : left ≤ len)
    {memory : List UInt8} (hroom : start + len ≤ memory.length) (s : List Recv) :
    tcpUtilsReadDataPartiallyInto start len left memory s =
      match tcpUtilsReadDataPartially left s with
      | none => .error .blocked
      | some r => .ok ⟨r.code, len - left + r.read.length,
          overwrite memory (start + (len - left)) r.read, r.socket⟩ := by
  induction s generalizing left memory with
  | nil =>
    cases left with
    | zero => simp [tcpUtilsReadDataPartiallyInto, tcpUtilsReadDataPartially, overwrite_nil]
    | succ left => rfl
  | cons e s ih =>
    cases left with
    | zero => simp [tcpUtilsReadDataPartiallyInto, tcpUtilsReadDataPartially, overwrite_nil]
    | succ left =>
      cases e with
      | data b bs =>
        rw [tcpUtilsReadDataPartiallyInto, tcpUtilsReadDataPartially]
        have hchunk : ((b :: bs).take (left + 1)).length = min (left + 1) (bs.length + 1) := by
          rw [List.length_take, List.length_cons]
        rw [memcpyAt_eq (by rw [hchunk]; omega)]
        dsimp only
        by_cases hle : left ≤ bs.length
        · rw [if_pos hle, if_pos hle]
          dsimp only
          have hall : len - (left + 1) + (b :: bs.take left).length = len := by
            rw [List.length_cons, List.length_take]
            omega
          rw [hall, List.take_succ_cons]
        · have htake : (b :: bs).take (left + 1) = b :: bs := by
            rw [List.take_of_length_le]
            rw [List.length_cons]
            omega
          have hfits : start + (len - (left + 1)) + (b :: bs).length ≤ memory.length := by
            rw [List.length_cons]
            omega
          rw [if_neg hle, if_neg hle, htake,
            ih (by omega) (by rw [length_overwrite hfits]; exact hroom)]
          cases tcpUtilsReadDataPartially (left - bs.length) s with
          | none => rfl
          | some r =>
            have hplace : start + (len - (left - bs.length)) =
                start + (len - (left + 1)) + (b :: bs).length := by
              rw [List.length_cons]
              omega
            rw [Option.map_some]
            dsimp only
            rw [hplace, overwrite_overwrite hfits, List.length_append, List.length_cons]
            congr 2
            omega
      | timeout => simp [tcpUtilsReadDataPartiallyInto, tcpUtilsReadDataPartially, overwrite_nil]
      | eintr =>
        rw [tcpUtilsReadDataPartiallyInto, tcpUtilsReadDataPartially]
        exact ih hleft hroom
      | closed => simp [tcpUtilsReadDataPartiallyInto, tcpUtilsReadDataPartially, overwrite_nil]
      | error => simp [tcpUtilsReadDataPartiallyInto, tcpUtilsReadDataPartially, overwrite_nil]

/-! ## The calls of `recv` -/

/-- What a call of `recv` has returned. -/
inductive RecvResult where
  | received (first : UInt8) (rest : List UInt8)
  | timeout
  | eintr
  | closed
  | error
deriving DecidableEq, Repr

/-- The bytes of results. -/
def received (calls : List RecvResult) : List UInt8 :=
  calls.flatMap fun
    | .received b bs => b :: bs
    | .timeout | .eintr | .closed | .error => []

/-- **The results that a socket allows**, and what is left of it: a segment can be received in
any number of parts. -/
inductive Recvs : List Recv → List RecvResult → List Recv → Prop
  | nil (s : List Recv) : Recvs s [] s
  | received {b : UInt8} {bs : List UInt8} {s rest : List Recv} {calls : List RecvResult}
      (count : Nat) (h : Recvs (pushBack (bs.drop count) s) calls rest) :
      Recvs (.data b bs :: s) (.received b (bs.take count) :: calls) rest
  | timeout {s rest : List Recv} {calls : List RecvResult} (h : Recvs s calls rest) :
      Recvs (.timeout :: s) (.timeout :: calls) rest
  | eintr {s rest : List Recv} {calls : List RecvResult} (h : Recvs s calls rest) :
      Recvs (.eintr :: s) (.eintr :: calls) rest
  | closed {s rest : List Recv} {calls : List RecvResult} (h : Recvs (.closed :: s) calls rest) :
      Recvs (.closed :: s) (.closed :: calls) rest
  | error {s rest : List Recv} {calls : List RecvResult} (h : Recvs s calls rest) :
      Recvs (.error :: s) (.error :: calls) rest

theorem received_append (calls more : List RecvResult) :
    received (calls ++ more) = received calls ++ received more := List.flatMap_append

theorem Recvs.append {s t u : List Recv} {calls more : List RecvResult} (h : Recvs s calls t)
    (hmore : Recvs t more u) : Recvs s (calls ++ more) u := by
  induction h with
  | nil => exact hmore
  | received count _ ih => exact .received count (ih hmore)
  | timeout _ ih => exact .timeout (ih hmore)
  | eintr _ ih => exact .eintr (ih hmore)
  | closed _ ih => exact .closed (ih hmore)
  | error _ ih => exact .error (ih hmore)

/-- The last calls have returned nothing but this many timeouts, or more. -/
def Stalled (count : Nat) (calls : List RecvResult) : Prop :=
  ∃ before idle, calls = before ++ idle ∧ (∀ c ∈ idle, c = .timeout ∨ c = .eintr) ∧
    count ≤ idle.count .timeout

/-- The last call has returned the end of the stream, or an error. -/
def Broken (calls : List RecvResult) : Prop :=
  calls.getLast? = some .closed ∨ calls.getLast? = some .error

theorem stalled_zero (calls : List RecvResult) : Stalled 0 calls :=
  ⟨calls, [], (List.append_nil _).symm, nofun, Nat.zero_le _⟩

/-- Another timeout, and maybe interrupted calls before it. -/
theorem Stalled.timeout {count : Nat} {calls interrupted : List RecvResult}
    (h : Stalled count calls) (hinterrupted : ∀ c ∈ interrupted, c = .eintr) :
    Stalled (count + 1) (calls ++ (interrupted ++ [.timeout])) := by
  obtain ⟨before, idle, rfl, hidle, hcount⟩ := h
  refine ⟨before, idle ++ (interrupted ++ [.timeout]), List.append_assoc _ _ _, ?_, ?_⟩
  · intro c hc
    rcases List.mem_append.mp hc with hc | hc
    · exact hidle c hc
    · rcases List.mem_append.mp hc with hc | hc
      · exact Or.inr (hinterrupted c hc)
      · exact Or.inl (List.mem_singleton.mp hc)
  · have hnone : interrupted.count .timeout = 0 :=
      List.count_eq_zero.mpr fun hmem => absurd (hinterrupted _ hmem) nofun
    rw [List.count_append, List.count_append, hnone, Nat.zero_add]
    exact Nat.add_le_add_right hcount 1

theorem Stalled.mono {count least : Nat} {calls : List RecvResult} (h : Stalled count calls)
    (hle : least ≤ count) : Stalled least calls := by
  obtain ⟨before, idle, hcalls, hidle, hcount⟩ := h
  exact ⟨before, idle, hcalls, hidle, hle.trans hcount⟩

theorem Broken.append {calls : List RecvResult} (h : Broken calls) (before : List RecvResult) :
    Broken (before ++ calls) := by
  unfold Broken at h ⊢
  rcases h with h | h
  · exact Or.inl (by rw [List.getLast?_append, h]; rfl)
  · exact Or.inr (by rw [List.getLast?_append, h]; rfl)

/-- How a partial read for `n` bytes has ended. -/
inductive PartialEnd (n : Nat) (code : Int) (calls : List RecvResult) : Prop
  | complete (hcode : code = 0) (hlength : (received calls).length = n)
  | timeout (hcode : code = -eagain) (hlength : (received calls).length < n)
      (hlast : ∃ before, calls = before ++ [.timeout] ∧
        (received calls = [] → ∀ c ∈ before, c = .eintr))
  | broken (hcode : code = -1) (hlength : (received calls).length < n) (hlast : Broken calls)

/-- **What a partial read has met.** -/
theorem readDataPartially_calls {n : Nat} {s : List Recv} {r : ReadData}
    (h : tcpUtilsReadDataPartially n s = some r) :
    ∃ calls, Recvs s calls r.socket ∧ received calls = r.read ∧ PartialEnd n r.code calls ∧
      (r.code = -eagain → r.socket.length < s.length) := by
  have hzero : (0 : Int) ≠ -eagain := by decide
  have hbroken : (-1 : Int) ≠ -eagain := by decide
  induction s generalizing n r with
  | nil =>
    cases n with
    | zero =>
      cases h
      exact ⟨[], .nil _, rfl, .complete rfl rfl, fun hcode => absurd hcode hzero⟩
    | succ n => cases h
  | cons e s ih =>
    cases n with
    | zero =>
      cases h
      exact ⟨[], .nil _, rfl, .complete rfl rfl, fun hcode => absurd hcode hzero⟩
    | succ left =>
      cases e with
      | data b bs =>
        rw [tcpUtilsReadDataPartially] at h
        split at h
        · rename_i hle
          cases h
          refine ⟨[.received b (bs.take left)], .received left (.nil _), List.append_nil _, ?_,
            fun hcode => absurd hcode hzero⟩
          refine .complete rfl ?_
          change (bs.take left ++ []).length + 1 = left + 1
          rw [List.append_nil, List.length_take, Nat.min_eq_left hle]
        · rename_i hlt
          obtain ⟨r, hr, rfl⟩ := Option.map_eq_some_iff.mp h
          obtain ⟨calls, hrecvs, hread, hend, hshort⟩ := ih hr
          have hfirst : Recvs (.data b bs :: s) (.received b bs :: calls) r.socket := by
            have hall :
                Recvs (.data b bs :: s) (.received b (bs.take bs.length) :: calls) r.socket :=
              .received bs.length (by rw [List.drop_length]; exact hrecvs)
            rwa [List.take_length] at hall
          have hbytes : received (.received b bs :: calls) = b :: bs ++ received calls := rfl
          refine ⟨.received b bs :: calls, hfirst, by rw [hbytes, hread], ?_,
            fun hcode => Nat.lt_succ_of_lt (hshort hcode)⟩
          have hcount : (received (.received b bs :: calls)).length =
              bs.length + 1 + (received calls).length := by
            rw [hbytes, List.length_append, List.length_cons]
          cases hend with
          | complete hcode hlength => exact .complete hcode (by omega)
          | timeout hcode hlength hlast =>
            obtain ⟨before, rfl, -⟩ := hlast
            refine .timeout hcode (by omega) ⟨.received b bs :: before, rfl, fun hnil => ?_⟩
            rw [hnil] at hcount
            rw [List.length_nil] at hcount
            omega
          | broken hcode hlength hlast =>
            exact .broken hcode (by omega) (hlast.append [.received b bs])
      | timeout =>
        cases h
        exact ⟨[.timeout], .timeout (.nil _), rfl,
          .timeout rfl (Nat.succ_pos _) ⟨[], rfl, fun _ => List.forall_mem_nil _⟩,
          fun _ => Nat.lt_succ_self _⟩
      | eintr =>
        rw [tcpUtilsReadDataPartially] at h
        obtain ⟨calls, hrecvs, hread, hend, hshort⟩ := ih h
        have hbytes : received (.eintr :: calls) = received calls := rfl
        refine ⟨.eintr :: calls, .eintr hrecvs, hread, ?_,
          fun hcode => Nat.lt_succ_of_lt (hshort hcode)⟩
        cases hend with
        | complete hcode hlength => exact .complete hcode hlength
        | timeout hcode hlength hlast =>
          obtain ⟨before, rfl, hbefore⟩ := hlast
          refine .timeout hcode hlength ⟨.eintr :: before, rfl, fun hnil => ?_⟩
          exact List.forall_mem_cons.mpr ⟨rfl, hbefore hnil⟩
        | broken hcode hlength hlast => exact .broken hcode hlength (hlast.append [.eintr])
      | closed =>
        cases h
        exact ⟨[.closed], .closed (.nil _), rfl, .broken rfl (Nat.succ_pos _) (Or.inl rfl),
          fun hcode => absurd hcode hbroken⟩
      | error =>
        cases h
        exact ⟨[.error], .error (.nil _), rfl, .broken rfl (Nat.succ_pos _) (Or.inr rfl),
          fun hcode => absurd hcode hbroken⟩

/-- How a read for `n` bytes has ended. -/
inductive ReadEnd (n : Nat) (code : Int) (calls : List RecvResult) : Prop
  | complete (hcode : code = 0) (hlength : (received calls).length = n)
  | nothing (hcode : code = -eagain) (hpos : 0 < n) (hnone : received calls = [])
      (hlast : calls.getLast? = some .timeout)
  | broken (hcode : code = -1) (hlength : (received calls).length < n) (hlast : Broken calls)
  | stalled (hcode : code = -1) (hlength : (received calls).length < n)
      (hsome : received calls ≠ []) (hlast : Stalled maxStalledTimeouts calls)

/-- **What the loop has met**, with the calls before it. -/
theorem readDataLoop_calls {len fuel stalledTimeouts : Nat} {earlier : List RecvResult}
    {s : List Recv} {r : ReadData} (hlen : (received earlier).length ≤ len)
    (hstalled : Stalled stalledTimeouts earlier)
    (h : tcpUtilsReadDataLoop len fuel (received earlier) stalledTimeouts s = some r) :
    ∃ calls, Recvs s calls r.socket ∧ received (earlier ++ calls) = r.read ∧
      ReadEnd len r.code (earlier ++ calls) := by
  induction fuel generalizing earlier stalledTimeouts s with
  | zero => cases h
  | succ fuel ih =>
    rw [tcpUtilsReadDataLoop] at h
    obtain ⟨p, hp, h⟩ := Option.bind_eq_some_iff.mp h
    obtain ⟨calls, hrecvs, hread, hend, -⟩ := readDataPartially_calls hp
    have htotal : received earlier ++ p.read = received (earlier ++ calls) := by
      rw [received_append, hread]
    have hcount : (received (earlier ++ calls)).length =
        (received earlier).length + (received calls).length := by
      rw [received_append, List.length_append]
    dsimp only at h
    rw [htotal] at h
    cases hend with
    | complete hcode hlength =>
      rw [if_pos hcode] at h
      cases h
      exact ⟨calls, hrecvs, rfl, .complete rfl (by omega)⟩
    | broken hcode hlength hlast =>
      rw [hcode, if_neg (by decide), if_pos rfl] at h
      cases h
      exact ⟨calls, hrecvs, rfl, .broken rfl (by omega) (hlast.append earlier)⟩
    | timeout hcode hlength hlast =>
      rw [hcode, if_neg (by decide), if_neg (by decide)] at h
      by_cases hnone : (received (earlier ++ calls)).length = 0
      · rw [if_pos hnone] at h
        cases h
        refine ⟨calls, hrecvs, rfl, .nothing rfl (by omega) (List.length_eq_zero_iff.mp hnone) ?_⟩
        obtain ⟨before, rfl, -⟩ := hlast
        rw [← List.append_assoc, List.getLast?_concat]
      · rw [if_neg hnone] at h
        have hnext : Stalled (if p.read.length > 0 then 0 else stalledTimeouts + 1)
            (earlier ++ calls) := by
          split
          · exact stalled_zero _
          · rename_i hidle
            obtain ⟨before, rfl, hbefore⟩ := hlast
            refine hstalled.timeout (hbefore ?_)
            rw [hread]
            exact List.length_eq_zero_iff.mp (by omega)
        generalize (if p.read.length > 0 then 0 else stalledTimeouts + 1) = stalled at h hnext
        split at h
        · rename_i hmax
          cases h
          refine ⟨calls, hrecvs, rfl, .stalled rfl (by omega) ?_ (hnext.mono hmax)⟩
          exact fun hnil => hnone (by rw [hnil]; rfl)
        · obtain ⟨more, hmore, hbytes, hend⟩ := ih (by omega) hnext h
          rw [List.append_assoc] at hbytes hend
          exact ⟨calls ++ more, hrecvs.append hmore, hbytes, hend⟩

/-- **The loop with its memory.** -/
theorem readDataLoopInto_eq {memory total : List UInt8} (hlen : total.length ≤ memory.length)
    (fuel stalledTimeouts : Nat) (s : List Recv) :
    tcpUtilsReadDataLoopInto memory.length fuel total.length stalledTimeouts
        (overwrite memory 0 total) s =
      match tcpUtilsReadDataLoop memory.length fuel total stalledTimeouts s with
      | none => .error .blocked
      | some r => .ok (r.code, overwrite memory 0 r.read, r.socket) := by
  induction fuel generalizing total stalledTimeouts s with
  | zero => rfl
  | succ fuel ih =>
    have hsize : (overwrite memory 0 total).length = memory.length :=
      length_overwrite (by rw [Nat.zero_add]; exact hlen)
    rw [tcpUtilsReadDataLoopInto, tcpUtilsReadDataLoop,
      readDataPartiallyInto_eq (le_refl _) (by rw [hsize]; omega)]
    cases hp : tcpUtilsReadDataPartially (memory.length - total.length) s with
    | none => rfl
    | some p =>
      obtain ⟨calls, -, hread, hend, -⟩ := readDataPartially_calls hp
      have hfits : p.read.length ≤ memory.length - total.length := by
        rw [← hread]
        cases hend with
        | complete _ hlength => exact hlength.le
        | timeout _ hlength _ => exact hlength.le
        | broken _ hlength _ => exact hlength.le
      have hmemory : overwrite (overwrite memory 0 total) (total.length + 0) p.read =
          overwrite memory 0 (total ++ p.read) := by
        have hinside : 0 + total.length ≤ memory.length := by omega
        have hone := overwrite_overwrite hinside p.read
        rw [Nat.zero_add] at hone
        exact hone
      have hroom : (total ++ p.read).length ≤ memory.length := by
        rw [List.length_append]
        omega
      have hnext := fun stalled => ih hroom stalled p.socket
      rw [List.length_append] at hnext
      simp only [Except.bind, Option.bind_some, Nat.sub_self, Nat.zero_add, hmemory,
        List.length_append, hnext]
      generalize (if p.read.length > 0 then 0 else stalledTimeouts + 1) = stalled
      split
      · rfl
      · split
        · rfl
        · split
          · rfl
          · split
            · rfl
            · rfl

/-- A read of a new memory. -/
theorem readDataInto_eq (memory : List UInt8) (s : List Recv) :
    tcpUtilsReadDataInto memory s =
      match tcpUtilsReadData memory.length s with
      | none => .error .blocked
      | some r => .ok (r.code, overwrite memory 0 r.read, r.socket) := by
  have hempty : ([] : List UInt8).length ≤ memory.length := Nat.zero_le _
  have hloop := readDataLoopInto_eq hempty (s.length + 1) 0 s
  rw [overwrite_nil] at hloop
  exact hloop

/-! ## Whether it returns -/

/-- A partial read that does not return has received everything. -/
theorem readDataPartially_none {n : Nat} {s : List Recv}
    (h : tcpUtilsReadDataPartially n s = none) : ∃ calls, Recvs s calls [] := by
  induction s generalizing n with
  | nil => exact ⟨[], .nil _⟩
  | cons e s ih =>
    cases n with
    | zero => cases h
    | succ left =>
      cases e with
      | data b bs =>
        rw [tcpUtilsReadDataPartially] at h
        split at h
        · cases h
        · obtain ⟨calls, hcalls⟩ := ih (Option.map_eq_none_iff.mp h)
          exact ⟨_, .received bs.length (by rw [List.drop_length]; exact hcalls)⟩
      | timeout => cases h
      | eintr =>
        rw [tcpUtilsReadDataPartially] at h
        obtain ⟨calls, hcalls⟩ := ih h
        exact ⟨_, .eintr hcalls⟩
      | closed => cases h
      | error => cases h

/-- **A read that does not return has received everything.** -/
theorem readDataLoop_none {len fuel stalledTimeouts : Nat} {total : List UInt8} {s : List Recv}
    (hfuel : s.length < fuel)
    (h : tcpUtilsReadDataLoop len fuel total stalledTimeouts s = none) :
    ∃ calls, Recvs s calls [] := by
  induction fuel generalizing total stalledTimeouts s with
  | zero => omega
  | succ fuel ih =>
    rw [tcpUtilsReadDataLoop] at h
    cases hp : tcpUtilsReadDataPartially (len - total.length) s with
    | none => exact readDataPartially_none hp
    | some p =>
      obtain ⟨calls, hrecvs, -, hend, hshort⟩ := readDataPartially_calls hp
      rw [hp, Option.bind_some] at h
      dsimp only at h
      cases hend with
      | complete hcode _ =>
        rw [if_pos hcode] at h
        cases h
      | broken hcode _ _ =>
        rw [hcode, if_neg (by decide), if_pos rfl] at h
        cases h
      | timeout hcode _ _ =>
        rw [hcode, if_neg (by decide), if_neg (by decide)] at h
        generalize (if p.read.length > 0 then 0 else stalledTimeouts + 1) = stalled at h
        split at h
        · cases h
        · split at h
          · cases h
          · obtain ⟨more, hmore⟩ := ih (by have := hshort hcode; omega) h
            exact ⟨calls ++ more, hrecvs.append hmore⟩

/-- The end of the stream stays. -/
theorem Recvs.closed_mem {s rest : List Recv} {calls : List RecvResult} (h : Recvs s calls rest)
    (hclosed : .closed ∈ s) : .closed ∈ rest := by
  induction h with
  | nil => exact hclosed
  | @received b bs s rest calls count _ ih =>
    refine ih ?_
    have hmem : Recv.closed ∈ s := (List.mem_cons.mp hclosed).resolve_left nofun
    cases bs.drop count with
    | nil => exact hmem
    | cons b bs => exact List.mem_cons_of_mem _ hmem
  | timeout _ ih => exact ih ((List.mem_cons.mp hclosed).resolve_left nofun)
  | eintr _ ih => exact ih ((List.mem_cons.mp hclosed).resolve_left nofun)
  | closed _ ih => exact ih List.mem_cons_self
  | error _ ih => exact ih ((List.mem_cons.mp hclosed).resolve_left nofun)

/-! ## The read -/

/-- **A read is honest** about its calls of `recv`. -/
structure HonestRead (memory : List UInt8) (s : List Recv) (code : Int) (result : List UInt8)
    (rest : List Recv) (calls : List RecvResult) : Prop where
  recvs : Recvs s calls rest
  /-- what was received is at the beginning of the memory, and behind it nothing has changed -/
  result_eq : result = received calls ++ memory.drop (received calls).length
  length_le : (received calls).length ≤ memory.length
  complete_iff : code = 0 ↔ (received calls).length = memory.length
  complete : code = 0 → result = received calls
  nothing : code < -1 → received calls = [] ∧ calls.getLast? = some .timeout
  failed : code = -1 →
    Broken calls ∨ received calls ≠ [] ∧ Stalled maxStalledTimeouts calls

theorem ReadEnd.honest {memory : List UInt8} {s rest : List Recv} {code : Int}
    {calls : List RecvResult} (hend : ReadEnd memory.length code calls)
    (hrecvs : Recvs s calls rest) :
    HonestRead memory s code (received calls ++ memory.drop (received calls).length) rest
      calls := by
  cases hend with
  | complete hcode hlength =>
    subst hcode
    refine ⟨hrecvs, rfl, hlength.le, iff_of_true rfl hlength, fun _ => ?_, by omega, by omega⟩
    rw [hlength, List.drop_length, List.append_nil]
  | nothing hcode hpos hnone hlast =>
    subst hcode
    have hshort : (received calls).length < memory.length := by
      rw [hnone]
      exact hpos
    exact ⟨hrecvs, rfl, hshort.le, iff_of_false (by decide) hshort.ne,
      fun h => absurd h (by decide), fun _ => ⟨hnone, hlast⟩, fun h => absurd h (by decide)⟩
  | broken hcode hlength hlast =>
    subst hcode
    exact ⟨hrecvs, rfl, hlength.le, iff_of_false (by decide) hlength.ne,
      fun h => absurd h (by decide), by omega, fun _ => Or.inl hlast⟩
  | stalled hcode hlength hsome hlast =>
    subst hcode
    exact ⟨hrecvs, rfl, hlength.le, iff_of_false (by decide) hlength.ne,
      fun h => absurd h (by decide), by omega, fun _ => Or.inr ⟨hsome, hlast⟩⟩

/-- **`tcp_utils_read_data` reads one part of a message or says why not.**  It returns if the
stream comes to an end, and never stays for another reason than a `recv` that does not
return; it never writes outside of `result`; and what it returns is honest. -/
theorem tcp_utils_read_data_honest (memory : List UInt8) (s : List Recv) :
    (∃ r, tcpUtilsReadDataInto memory (s ++ [.closed]) = .ok r) ∧
    (tcpUtilsReadDataInto memory s = .error .blocked → ∃ calls, Recvs s calls []) ∧
    tcpUtilsReadDataInto memory s ≠ .error .overrun ∧
    ∀ code result rest, tcpUtilsReadDataInto memory s = .ok (code, result, rest) →
      ∃ calls, HonestRead memory s code result rest calls := by
  refine ⟨?_, ?_, ?_, ?_⟩
  · rw [readDataInto_eq]
    cases hread : tcpUtilsReadData memory.length (s ++ [.closed]) with
    | some r => exact ⟨_, rfl⟩
    | none =>
      obtain ⟨calls, hcalls⟩ := readDataLoop_none (Nat.lt_succ_self _) hread
      exact absurd (hcalls.closed_mem (List.mem_append_right _ List.mem_cons_self)) nofun
  · rw [readDataInto_eq]
    cases hread : tcpUtilsReadData memory.length s with
    | some r => exact nofun
    | none => exact fun _ => readDataLoop_none (Nat.lt_succ_self _) hread
  · rw [readDataInto_eq]
    cases tcpUtilsReadData memory.length s with
    | some r => exact nofun
    | none => exact nofun
  · intro code result rest h
    rw [readDataInto_eq] at h
    cases hread : tcpUtilsReadData memory.length s with
    | none =>
      rw [hread] at h
      cases h
    | some r =>
      rw [hread] at h
      cases h
      have hempty : (received []).length ≤ memory.length := Nat.zero_le _
      obtain ⟨calls, hrecvs, hbytes, hend⟩ := readDataLoop_calls hempty (stalled_zero _) hread
      rw [List.nil_append] at hbytes hend
      have hresult : overwrite memory 0 r.read =
          received calls ++ memory.drop (received calls).length := by
        rw [overwrite, hbytes, List.take_zero, List.nil_append, Nat.zero_add]
      rw [hresult]
      exact ⟨calls, hend.honest hrecvs⟩

end SdrModem
