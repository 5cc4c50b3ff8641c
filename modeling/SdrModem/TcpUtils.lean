import Mathlib.Data.List.TakeDrop
import Mathlib.Data.List.Chain

/-!
# Reading from a socket: `tcp_utils.c`

A socket is the list of what the coming calls of `recv` will meet.  A segment
longer than what is asked for is returned in part and the rest of it stays.  At
the end of the list `recv` does not return, and neither does the read; `closed`
stays: once the peer has closed the connection, every `recv` returns 0.

Behind the segments and the interrupted calls there is a plain sequence of bytes
and timeouts, the `items` of the socket, and this is all that the result of a
read depends on: reading `n` bytes consumes the first `n` bytes of the sequence
and the timeouts among them (`readData_ok`), unless the sequence starts with a
timeout (`readData_timeout`).
-/
namespace SdrModem

/-- What one call of `recv` meets. -/
inductive Recv where
  /-- A segment of at least one byte. -/
  | data (first : UInt8) (rest : List UInt8)
  /-- The read timeout: `EAGAIN` or `EWOULDBLOCK`. -/
  | timeout
  | eintr
  /-- The peer has closed the connection. -/
  | closed
  /-- Any other error. -/
  | error
deriving DecidableEq, Repr

/-- The value of `EAGAIN`. -/
def eagain : Int := 11

/-- `TCP_UTILS_MAX_STALLED_TIMEOUTS`. -/
def maxStalledTimeouts : Nat := 3

/-- What a read leaves behind: its return code, the bytes it stored and the
socket. -/
structure ReadData where
  code : Int
  read : List UInt8
  socket : List Recv
deriving DecidableEq, Repr

/-- What is left of a segment stays in front of the socket. -/
def pushBack : List UInt8 → List Recv → List Recv
  | [], s => s
  | b :: bs, s => .data b bs :: s

/-- `tcp_utils_read_data_partially`; `none` if `recv` does not return. -/
def tcpUtilsReadDataPartially : Nat → List Recv → Option ReadData
  | 0, s => some ⟨0, [], s⟩
  | _ + 1, [] => none
  | left + 1, .data b bs :: s =>
      if left ≤ bs.length then
        some ⟨0, b :: bs.take left, pushBack (bs.drop left) s⟩
      else
        (tcpUtilsReadDataPartially (left - bs.length) s).map fun r =>
          { r with read := b :: bs ++ r.read }
  | _ + 1, .timeout :: s => some ⟨-eagain, [], s⟩
  | left + 1, .eintr :: s => tcpUtilsReadDataPartially (left + 1) s
  | _ + 1, .closed :: s => some ⟨-1, [], .closed :: s⟩
  | _ + 1, .error :: s => some ⟨-1, [], s⟩

/-- The loop of `tcp_utils_read_data`.  Every iteration but the last consumes a
timeout, so `fuel` above the length of the socket is enough. -/
def tcpUtilsReadDataLoop (len : Nat) : Nat → List UInt8 → Nat → List Recv → Option ReadData
  | 0, _, _, _ => none
  | fuel + 1, total, stalledTimeouts, s =>
      (tcpUtilsReadDataPartially (len - total.length) s).bind fun r =>
        let total := total ++ r.read
        if r.code = 0 then some ⟨0, total, r.socket⟩
        else if r.code = -1 then some ⟨-1, total, r.socket⟩
        -- nothing was read: "no message yet"
        else if total.length = 0 then some ⟨r.code, total, r.socket⟩
        else
          let stalledTimeouts := if r.read.length > 0 then 0 else stalledTimeouts + 1
          if stalledTimeouts ≥ maxStalledTimeouts then some ⟨-1, total, r.socket⟩
          else tcpUtilsReadDataLoop len fuel total stalledTimeouts r.socket

/-- `tcp_utils_read_data`; `none` if `recv` does not return. -/
def tcpUtilsReadData (len : Nat) (s : List Recv) : Option ReadData :=
  tcpUtilsReadDataLoop len (s.length + 1) [] 0 s

/-! ## Bytes and timeouts -/

/-- The bytes (`some`) and timeouts (`none`) of one call. -/
def Recv.items : Recv → List (Option UInt8)
  | .data b bs => some b :: bs.map some
  | .timeout => [none]
  | .eintr | .closed | .error => []

/-- The bytes and timeouts of a socket, in order. -/
def items (s : List Recv) : List (Option UInt8) := s.flatMap Recv.items

/-- The peer neither closes the connection nor breaks it. -/
def Connected (s : List Recv) : Prop := ∀ e ∈ s, e ≠ .closed ∧ e ≠ .error

/-- `tcp_utils_read_data_partially` on a sequence of bytes and timeouts. -/
def readItems : Nat → List (Option UInt8) → Option (Int × List UInt8 × List (Option UInt8))
  | 0, is => some (0, [], is)
  | _ + 1, [] => none
  | _ + 1, none :: is => some (-eagain, [], is)
  | n + 1, some b :: is => (readItems n is).map fun (code, bs, rest) => (code, b :: bs, rest)

@[simp] theorem items_nil : items [] = [] := rfl

@[simp] theorem items_cons (e : Recv) (s : List Recv) : items (e :: s) = e.items ++ items s := rfl

theorem items_pushBack (bs : List UInt8) (s : List Recv) :
    items (pushBack bs s) = bs.map some ++ items s := by
  cases bs <;> rfl

theorem Connected.tail {e : Recv} {s : List Recv} (h : Connected (e :: s)) : Connected s :=
  fun x hx => h x (List.mem_cons_of_mem _ hx)

theorem Connected.pushBack {s : List Recv} (h : Connected s) (bs : List UInt8) :
    Connected (pushBack bs s) := by
  cases bs with
  | nil => exact h
  | cons b bs =>
    intro e he
    rcases List.mem_cons.mp he with rfl | he
    · exact ⟨nofun, nofun⟩
    · exact h e he

theorem readItems_append (n : Nat) (bs : List UInt8) (is : List (Option UInt8)) :
    readItems (bs.length + n) (bs.map some ++ is) =
      (readItems n is).map fun (code, cs, rest) => (code, bs ++ cs, rest) := by
  induction bs with
  | nil => simp
  | cons b bs ih =>
    have hn : (b :: bs).length + n = (bs.length + n) + 1 := by simp only [List.length_cons]; omega
    rw [hn, List.map_cons, List.cons_append, readItems, ih, Option.map_map]
    rfl

theorem readItems_take (bs : List UInt8) (is : List (Option UInt8)) :
    readItems bs.length (bs.map some ++ is) = some (0, bs, is) := by
  have h := readItems_append 0 bs is
  rw [Nat.add_zero] at h
  simpa [readItems] using h

/-- **A partial read sees only bytes and timeouts**, and a read that ends with a
timeout has consumed it. -/
theorem readDataPartially_items {s : List Recv} (hs : Connected s) (n : Nat) :
    (tcpUtilsReadDataPartially n s).map (fun r => (r.code, r.read, items r.socket)) =
        readItems n (items s) ∧
      ∀ r, tcpUtilsReadDataPartially n s = some r →
        Connected r.socket ∧ (r.code ≠ 0 → r.socket.length < s.length) := by
  induction s generalizing n with
  | nil =>
    cases n with
    | zero => simp [tcpUtilsReadDataPartially, readItems, Connected]
    | succ n => simp [tcpUtilsReadDataPartially, readItems]
  | cons e s ih =>
    cases n with
    | zero => simpa [tcpUtilsReadDataPartially, readItems] using hs
    | succ left =>
      cases e with
      | data b bs =>
        simp only [tcpUtilsReadDataPartially, items_cons, Recv.items, List.cons_append, readItems]
        split
        · rename_i hle
          have hsplit : bs = bs.take left ++ bs.drop left := (List.take_append_drop left bs).symm
          have hlen : (bs.take left).length = left := by simp [hle]
          have hread : readItems left (bs.map some ++ items s) =
              some (0, bs.take left, (bs.drop left).map some ++ items s) := by
            have h := readItems_take (bs.take left) ((bs.drop left).map some ++ items s)
            rw [hlen, ← List.append_assoc, ← List.map_append, ← hsplit] at h
            exact h
          refine ⟨by simp [hread, items_pushBack], ?_⟩
          rintro r hr
          cases hr
          exact ⟨hs.tail.pushBack _, fun h => absurd rfl h⟩
        · rename_i hlt
          obtain ⟨hitems, hsocket⟩ := ih hs.tail (left - bs.length)
          have hread := readItems_append (left - bs.length) bs (items s)
          rw [show bs.length + (left - bs.length) = left by omega] at hread
          refine ⟨?_, ?_⟩
          · rw [hread, ← hitems]
            simp [Option.map_map, Function.comp_def]
          · intro r hr
            obtain ⟨r', hr', rfl⟩ := Option.map_eq_some_iff.mp hr
            obtain ⟨hc, hl⟩ := hsocket r' hr'
            exact ⟨hc, fun h => Nat.lt_succ_of_lt (hl h)⟩
      | timeout =>
        refine ⟨by simp [tcpUtilsReadDataPartially, Recv.items, readItems], ?_⟩
        rintro r hr
        cases hr
        exact ⟨hs.tail, fun _ => Nat.lt_succ_self _⟩
      | eintr =>
        obtain ⟨hitems, hsocket⟩ := ih hs.tail (left + 1)
        refine ⟨hitems, fun r hr => ?_⟩
        obtain ⟨hc, hl⟩ := hsocket r hr
        exact ⟨hc, fun h => Nat.lt_succ_of_lt (hl h)⟩
      | closed => exact absurd rfl (hs .closed List.mem_cons_self).1
      | error => exact absurd rfl (hs .error List.mem_cons_self).2

/-- What a partial read on an open connection did. -/
theorem readItems_cases {n : Nat} {is rest : List (Option UInt8)} {code : Int} {bs : List UInt8}
    (h : readItems n is = some (code, bs, rest)) :
    (code = 0 ∧ is = bs.map some ++ rest ∧ bs.length = n) ∨
      (code = -eagain ∧ is = bs.map some ++ none :: rest ∧ bs.length < n) := by
  induction is generalizing n bs with
  | nil =>
    cases n with
    | zero => cases h; exact Or.inl ⟨rfl, rfl, rfl⟩
    | succ n => cases h
  | cons i is ih =>
    cases n with
    | zero => cases h; exact Or.inl ⟨rfl, rfl, rfl⟩
    | succ n =>
      cases i with
      | none => cases h; exact Or.inr ⟨rfl, rfl, Nat.succ_pos n⟩
      | some b =>
        obtain ⟨⟨code', cs, rest'⟩, hread, he⟩ := Option.map_eq_some_iff.mp h
        cases he
        rcases ih hread with ⟨hc, hi, hl⟩ | ⟨hc, hi, hl⟩
        · exact Or.inl ⟨hc, by rw [hi]; rfl, by rw [List.length_cons, hl]⟩
        · exact Or.inr ⟨hc, by rw [hi]; rfl, by rw [List.length_cons]; omega⟩

theorem readDataPartially_cases {s : List Recv} (hs : Connected s) {n : Nat} {r : ReadData}
    (h : tcpUtilsReadDataPartially n s = some r) :
    Connected r.socket ∧
      ((r.code = 0 ∧ items s = r.read.map some ++ items r.socket ∧ r.read.length = n) ∨
        (r.code = -eagain ∧ items s = r.read.map some ++ none :: items r.socket ∧
          r.read.length < n ∧ r.socket.length < s.length)) := by
  obtain ⟨hitems, hsocket⟩ := readDataPartially_items hs n
  obtain ⟨hc, hl⟩ := hsocket r h
  rw [h] at hitems
  refine ⟨hc, ?_⟩
  rcases readItems_cases hitems.symm with ⟨hcode, hi, hlen⟩ | ⟨hcode, hi, hlen⟩
  · exact Or.inl ⟨hcode, hi, hlen⟩
  · exact Or.inr ⟨hcode, hi, hlen, hl (by rw [hcode]; decide)⟩

/-- A partial read that finds all its bytes. -/
theorem readDataPartially_ok {s : List Recv} (hs : Connected s) {bs : List UInt8}
    {rest : List (Option UInt8)} (hi : items s = bs.map some ++ rest) :
    ∃ s', tcpUtilsReadDataPartially bs.length s = some ⟨0, bs, s'⟩ ∧ Connected s' ∧
      items s' = rest := by
  obtain ⟨hitems, hsocket⟩ := readDataPartially_items hs bs.length
  rw [hi, readItems_take] at hitems
  obtain ⟨⟨code, read, s'⟩, hr, he⟩ := Option.map_eq_some_iff.mp hitems
  cases he
  exact ⟨s', hr, (hsocket _ hr).1, rfl⟩

/-- A partial read that meets a timeout first. -/
theorem readDataPartially_timeout {s : List Recv} (hs : Connected s) {bs : List UInt8}
    {rest : List (Option UInt8)} (hi : items s = bs.map some ++ none :: rest) {n : Nat}
    (hn : bs.length < n) :
    ∃ s', tcpUtilsReadDataPartially n s = some ⟨-eagain, bs, s'⟩ ∧ Connected s' ∧
      items s' = rest ∧ s'.length < s.length := by
  obtain ⟨hitems, hsocket⟩ := readDataPartially_items hs n
  obtain ⟨k, rfl⟩ : ∃ k, n = bs.length + (k + 1) := ⟨n - bs.length - 1, by omega⟩
  rw [hi, readItems_append, readItems] at hitems
  obtain ⟨⟨code, read, s'⟩, hr, he⟩ := Option.map_eq_some_iff.mp hitems
  obtain ⟨hc, hl⟩ := hsocket _ hr
  simp only [Prod.mk.injEq, List.append_nil] at he
  obtain ⟨rfl, rfl, rfl⟩ := he
  exact ⟨s', hr, hc, rfl, hl (show (-eagain : Int) ≠ 0 by decide)⟩

/-! ## A whole read -/

@[simp] theorem readData_zero (s : List Recv) : tcpUtilsReadData 0 s = some ⟨0, [], s⟩ := by
  simp [tcpUtilsReadData, tcpUtilsReadDataLoop, tcpUtilsReadDataPartially]

/-- **A timeout before the first byte** is what the read returns. -/
theorem readData_timeout {s : List Recv} (hs : Connected s) {rest : List (Option UInt8)}
    (hi : items s = none :: rest) {n : Nat} (hn : 0 < n) :
    ∃ s', tcpUtilsReadData n s = some ⟨-eagain, [], s'⟩ ∧ Connected s' ∧ items s' = rest := by
  obtain ⟨s', hr, hc, hrest, -⟩ :=
    readDataPartially_timeout hs (show items s = ([] : List UInt8).map some ++ none :: rest from hi) hn
  refine ⟨s', ?_, hc, hrest⟩
  rw [tcpUtilsReadData, tcpUtilsReadDataLoop]
  simp [hr, show (-eagain : Int) ≠ 0 by decide, show (-eagain : Int) ≠ -1 by decide]

/-- Nothing to read and no timeout: `recv` does not return. -/
theorem readData_blocked {s : List Recv} (hs : Connected s) (hi : items s = []) {n : Nat}
    (hn : 0 < n) : tcpUtilsReadData n s = none := by
  obtain ⟨k, rfl⟩ : ∃ k, n = k + 1 := ⟨n - 1, by omega⟩
  have hnone : tcpUtilsReadDataPartially (k + 1) s = none := by
    have hitems := (readDataPartially_items hs (k + 1)).1
    rw [hi] at hitems
    exact Option.map_eq_none_iff.mp hitems
  rw [tcpUtilsReadData, tcpUtilsReadDataLoop]
  simp [hnone]

/-- Bytes with some timeouts in front of each. -/
def weave (gs : List (Nat × UInt8)) : List (Option UInt8) :=
  gs.flatMap fun (k, b) => List.replicate k none ++ [some b]

theorem weave_cons (k : Nat) (b : UInt8) (gs : List (Nat × UInt8)) :
    weave ((k, b) :: gs) = List.replicate k none ++ some b :: weave gs := by
  simp [weave]

theorem weave_append (gs hs : List (Nat × UInt8)) : weave (gs ++ hs) = weave gs ++ weave hs :=
  List.flatMap_append

/-- Bytes without timeouts, up to the next timeout or to the end. -/
theorem weave_split (gs : List (Nat × UInt8)) :
    (weave gs = (gs.map Prod.snd).map some) ∨
      ∃ bs k b hs, gs.map Prod.snd = bs ++ b :: hs.map Prod.snd ∧ (k + 1, b) ∈ gs ∧
        (∀ g ∈ hs, g ∈ gs) ∧ weave gs = bs.map some ++ none :: weave ((k, b) :: hs) := by
  induction gs with
  | nil => exact Or.inl rfl
  | cons g gs ih =>
    obtain ⟨k, b⟩ := g
    cases k with
    | succ k =>
      refine Or.inr ⟨[], k, b, gs, rfl, List.mem_cons_self, fun g hg => List.mem_cons_of_mem _ hg, ?_⟩
      rw [weave_cons, weave_cons, List.replicate_succ]
      rfl
    | zero =>
      rcases ih with hall | ⟨bs, k, c, hs, hbytes, hmem, hsub, hweave⟩
      · exact Or.inl (by rw [weave_cons, hall]; rfl)
      · refine Or.inr ⟨b :: bs, k, c, hs, by rw [List.map_cons, hbytes]; rfl,
          List.mem_cons_of_mem _ hmem, fun g hg => List.mem_cons_of_mem _ (hsub g hg), ?_⟩
        rw [weave_cons, hweave]
        rfl

/-- **The loop of `tcp_utils_read_data` collects the bytes of a message**, however
they are mixed with timeouts, as long as less than three timeouts follow each
other.  `stalledTimeouts` and the timeouts ahead are counted together. -/
theorem readDataLoop_ok {len fuel stalledTimeouts k : Nat} {total : List UInt8} {b : UInt8}
    {gs : List (Nat × UInt8)} {s : List Recv} {rest : List (Option UInt8)} (hs : Connected s)
    (hi : items s = weave ((k, b) :: gs) ++ rest) (hfuel : s.length < fuel)
    (hlen : len = total.length + (gs.length + 1)) (hk : k = 0 ∨ total ≠ [])
    (hstall : stalledTimeouts + k < maxStalledTimeouts) (hgaps : ∀ g ∈ gs, g.1 < maxStalledTimeouts) :
    ∃ s', tcpUtilsReadDataLoop len fuel total stalledTimeouts s =
        some ⟨0, total ++ b :: gs.map Prod.snd, s'⟩ ∧ Connected s' ∧ items s' = rest := by
  induction fuel generalizing total stalledTimeouts k b gs s with
  | zero => omega
  | succ fuel ih =>
    rw [tcpUtilsReadDataLoop]
    cases k with
    | succ k =>
      -- a timeout comes first and counts as stalled
      have hne : total ≠ [] := hk.resolve_left (by omega)
      rw [weave_cons, List.replicate_succ, List.append_assoc, List.cons_append] at hi
      obtain ⟨s', hr, hc, hrest, hshort⟩ := readDataPartially_timeout hs
        (show items s = ([] : List UInt8).map some ++ none :: _ from hi)
        (show ([] : List UInt8).length < len - total.length by rw [List.length_nil]; omega)
      have hlong : ¬ stalledTimeouts + 1 ≥ maxStalledTimeouts := by omega
      obtain ⟨s'', hloop, hc', hrest'⟩ := ih hc
        (show items s' = weave ((k, b) :: gs) ++ rest by rw [hrest, weave_cons, List.append_assoc])
        (by omega) hlen (Or.inr hne)
        (show (stalledTimeouts + 1) + k < maxStalledTimeouts by omega) hgaps
      refine ⟨s'', ?_, hc', hrest'⟩
      simpa [hr, hne, hlong, show (-eagain : Int) ≠ 0 by decide,
        show (-eagain : Int) ≠ -1 by decide] using hloop
    | zero =>
      rw [weave_cons, List.replicate_zero, List.nil_append] at hi
      rcases weave_split gs with hall | ⟨bs, k, c, hs', hbytes, hmem, hsub, hweave⟩
      · -- no timeout is left: this partial read is the last one
        rw [hall] at hi
        obtain ⟨s', hr, hc, hrest⟩ :=
          readDataPartially_ok hs (show items s = (b :: gs.map Prod.snd).map some ++ rest from hi)
        have hleft : len - total.length = (b :: gs.map Prod.snd).length := by
          rw [List.length_cons, List.length_map]; omega
        rw [hleft, hr]
        exact ⟨s', rfl, hc, hrest⟩
      · -- some bytes were read before the timeout, so it does not count
        have hcount := congrArg List.length hbytes
        simp only [List.length_map, List.length_cons, List.length_append] at hcount
        rw [hweave] at hi
        obtain ⟨s', hr, hc, hrest, hshort⟩ := readDataPartially_timeout hs
          (show items s = (b :: bs).map some ++ none :: (weave ((k, c) :: hs') ++ rest) by
            rw [hi]; simp)
          (show (b :: bs).length < len - total.length by rw [List.length_cons]; omega)
        have hk' := hgaps _ hmem
        obtain ⟨s'', hloop, hc', hrest'⟩ := ih hc hrest (by omega)
          (show len = (total ++ b :: bs).length + (hs'.length + 1) by
            simp only [List.length_append, List.length_cons]; omega)
          (Or.inr (by simp)) (show 0 + k < maxStalledTimeouts by omega)
          (fun g hg => hgaps g (hsub g hg))
        refine ⟨s'', ?_, hc', hrest'⟩
        simpa [hr, hbytes, maxStalledTimeouts, show (-eagain : Int) ≠ 0 by decide,
          show (-eagain : Int) ≠ -1 by decide] using hloop

/-- **A read collects the bytes of a message**: none before its first byte, and
less than three timeouts before any other. -/
theorem readData_ok {s : List Recv} (hs : Connected s) {b : UInt8} {gs : List (Nat × UInt8)}
    {rest : List (Option UInt8)} (hi : items s = weave ((0, b) :: gs) ++ rest)
    (hgaps : ∀ g ∈ gs, g.1 < maxStalledTimeouts) :
    ∃ s', tcpUtilsReadData (gs.length + 1) s = some ⟨0, b :: gs.map Prod.snd, s'⟩ ∧
      Connected s' ∧ items s' = rest :=
  readDataLoop_ok hs hi (Nat.lt_succ_self _) (by simp) (Or.inl rfl) (by decide) hgaps

/-- The bytes among bytes and timeouts. -/
def bytes (is : List (Option UInt8)) : List UInt8 := is.filterMap id

@[simp] theorem bytes_append (is js : List (Option UInt8)) : bytes (is ++ js) = bytes is ++ bytes js :=
  List.filterMap_append

@[simp] theorem bytes_map_some (bs : List UInt8) : bytes (bs.map some) = bs := by
  simp [bytes, List.filterMap_map]

/-- **A read takes what it returns off the socket**: the items consumed are a
prefix, a successful read returns exactly their bytes, and it stops right behind
the last of them. -/
theorem readDataLoop_consumes {len fuel stalledTimeouts : Nat} {total : List UInt8} {s : List Recv}
    (hs : Connected s) (hlen : total.length ≤ len) {r : ReadData}
    (h : tcpUtilsReadDataLoop len fuel total stalledTimeouts s = some r) :
    Connected r.socket ∧ ∃ used, items s = used ++ items r.socket ∧
      r.read = total ++ bytes used ∧ r.read.length ≤ len ∧ r.code ≤ 0 ∧
      (r.code = 0 → r.read.length = len ∧
        (total.length < len → ∃ us b, used = us ++ [some b])) := by
  induction fuel generalizing total stalledTimeouts s with
  | zero => cases h
  | succ fuel ih =>
    rw [tcpUtilsReadDataLoop] at h
    obtain ⟨p, hp, h⟩ := Option.bind_eq_some_iff.mp h
    obtain ⟨hc, hcase⟩ := readDataPartially_cases hs hp
    rcases hcase with ⟨hcode, hi, hn⟩ | ⟨hcode, hi, hn, -⟩
    · rw [if_pos hcode] at h
      cases h
      refine ⟨hc, p.read.map some, hi, by simp, ?_, Int.le_refl 0, fun _ => ⟨?_, ?_⟩⟩
      · rw [List.length_append]; omega
      · rw [List.length_append]; omega
      · intro hlt
        have hne : p.read ≠ [] := fun hnil => by rw [hnil] at hn; simp at hn; omega
        obtain ⟨us, b, hb⟩ := List.eq_nil_or_concat p.read |>.resolve_left hne
        exact ⟨us.map some, b, by rw [hb]; simp⟩
    · have hne0 : p.code ≠ 0 := by rw [hcode]; decide
      have hne1 : p.code ≠ -1 := by rw [hcode]; decide
      have hused : items s = (p.read.map some ++ [none]) ++ items p.socket := by rw [hi]; simp
      have hbytes : bytes (p.read.map some ++ [none]) = p.read := by
        simp [bytes]
      have htotal : (total ++ p.read).length ≤ len := by rw [List.length_append]; omega
      simp only [hne0, hne1, if_false] at h
      generalize (if p.read.length > 0 then 0 else stalledTimeouts + 1) = stalled at h
      split at h
      · cases h
        exact ⟨hc, _, hused, by rw [hbytes], htotal, by rw [hcode]; decide, fun h0 => absurd h0 hne0⟩
      · split at h
        · cases h
          exact ⟨hc, _, hused, by rw [hbytes], htotal, show (-1 : Int) ≤ 0 by decide,
            fun h0 => absurd h0 (show (-1 : Int) ≠ 0 by decide)⟩
        · obtain ⟨hc', used, hi', hread, hle, hneg, hok⟩ := ih hc htotal h
          refine ⟨hc', (p.read.map some ++ [none]) ++ used, by rw [hused, hi']; simp,
            ?_, hle, hneg, fun h0 => ⟨(hok h0).1, fun _ => ?_⟩⟩
          · rw [hread, bytes_append, hbytes, List.append_assoc]
          · obtain ⟨us, b, hb⟩ := (hok h0).2 (by rw [List.length_append]; omega)
            exact ⟨(p.read.map some ++ [none]) ++ us, b, by rw [hb]; simp⟩

theorem readData_consumes {n : Nat} {s : List Recv} (hs : Connected s) {r : ReadData}
    (h : tcpUtilsReadData n s = some r) :
    Connected r.socket ∧ ∃ used, items s = used ++ items r.socket ∧ r.read = bytes used ∧ r.code ≤ 0 ∧
      (r.code = 0 → r.read.length = n ∧ (0 < n → ∃ us b, used = us ++ [some b])) := by
  obtain ⟨hc, used, hi, hread, -, hneg, hok⟩ := readDataLoop_consumes hs (Nat.zero_le n) h
  exact ⟨hc, used, hi, hread, hneg, hok⟩

end SdrModem
