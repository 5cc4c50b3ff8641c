import Mathlib.Data.List.Perm.Basic
import SdrModem.Server
import SdrModem.RxWorkerQueue
import SdrModem.TxWorkerFrame

/-!
# How requests and answers move through the server

A request that has been read is, until it is answered, in exactly one place: among
the calls the acceptor thread still has to make, in the hands or in the queue of a
worker, on its way through the client queue, or on the wire.  This module says how
each step of each worker moves it on; `ServerEffect` does so for the acceptor
thread and puts the steps together.
-/
namespace SdrModem
open BoundedFifo Machine

/-- What a call, a command or an answer is about: a request, and whether that is
the transmission of a frame. -/
structure About where
  requestId : UInt32
  frame : Bool
deriving DecidableEq, Repr

/-- The same mark on something else. -/
def Item.map {α β : Type} (f : α → β) (c : Item α) : Item β := ⟨f c.val, c.tag⟩

/-- What a command is about. -/
def RxCommand.about (c : RxCommand) : About := ⟨c.requestId, false⟩

/-- What a command is about. -/
def TxCommand.about : TxCommand → About
  | .frame id _ => ⟨id, true⟩
  | .commParameters id _ => ⟨id, false⟩

/-- What a message answers; `none` if it is not an answer. -/
def ClientTxMessage.about? : ClientTxMessage → Option About
  | .response id _ _ => some ⟨id, false⟩
  | .complete id _ _ => some ⟨id, true⟩
  | .softBits _ _ | .newClient _ => none

/-- What a call of the acceptor thread is about; `none` if it is not about a
request. -/
def ServerAct.about? : ServerAct → Option About
  | .sendResponse id _ _ | .setRxCommParameters id _ | .startRx id | .stopRx id
  | .setTxCommParameters id _ => some ⟨id, false⟩
  | .sendFrame id _ => some ⟨id, true⟩
  | .sendNew _ => none

/-- The request a message answers. -/
def Sent.item? (m : Sent) : Option (Item About) := m.message.about?.map fun a => ⟨a, m.tag⟩

/-- Soft bits answer nothing. -/
theorem Sent.item?_softBits {m : Sent} (h : ∃ id bits, m.message = .softBits id bits) :
    m.item? = none := by
  obtain ⟨id, bits, hm⟩ := h
  rw [item?, hm]
  rfl

/-- The request a call is about. -/
def Item.call? (a : Item ServerAct) : Option (Item About) := a.val.about?.map fun b => ⟨b, a.tag⟩

/-! ## The workers -/

/-- **What a step of a worker does to the answers it owes**: none is sent, or one
of them, or one is dropped. -/
inductive Worked (drops : Item About → Prop) (owed owed' : List (Item About)) :
    Option Sent → Prop where
  | quiet (sent : Option Sent) (howed : owed' = owed) (hsent : ∀ m ∈ sent, m.item? = none) :
      Worked drops owed owed' sent
  | answers (x : Item About) (m : Sent) (howed : owed.Perm (x :: owed')) (hm : m.item? = some x) :
      Worked drops owed owed' (some m)
  | drops (x : Item About) (howed : owed.Perm (x :: owed')) (hx : drops x) :
      Worked drops owed owed' none

namespace Worked
variable {drops drops' : Item About → Prop} {owed owed' : List (Item About)} {sent : Option Sent}

theorem mono (h : Worked drops owed owed' sent) (hd : ∀ x, drops x → drops' x) :
    Worked drops' owed owed' sent := by
  cases h with
  | quiet _ howed hsent => exact .quiet _ howed hsent
  | answers x m howed hm => exact .answers x m howed hm
  | drops x howed hx => exact .drops x howed (hd x hx)

/-- The other worker goes on owing what it owes. -/
theorem append_right (h : Worked drops owed owed' sent) (other : List (Item About)) :
    Worked drops (owed ++ other) (owed' ++ other) sent := by
  cases h with
  | quiet _ howed hsent => exact .quiet _ (by rw [howed]) hsent
  | answers x m howed hm => exact .answers x m (howed.append_right other) hm
  | drops x howed hx => exact .drops x (howed.append_right other) hx

theorem append_left (h : Worked drops owed owed' sent) (other : List (Item About)) :
    Worked drops (other ++ owed) (other ++ owed') sent := by
  cases h with
  | quiet _ howed hsent => exact .quiet _ (by rw [howed]) hsent
  | answers x m howed hm =>
    exact .answers x m ((howed.append_left other).trans List.perm_middle) hm
  | drops x howed hx => exact .drops x ((howed.append_left other).trans List.perm_middle) hx

/-- The message a worker sends answers what it owed. -/
theorem mem {m : Sent} {x : Item About} (h : Worked drops owed owed' (some m))
    (hx : m.item? = some x) : x ∈ owed := by
  cases h with
  | quiet _ howed hsent => rw [hsent m rfl] at hx; cases hx
  | answers y _ howed hm =>
    cases hx.symm.trans hm
    exact howed.symm.subset List.mem_cons_self

theorem subset (h : Worked drops owed owed' sent) : owed' ⊆ owed := by
  cases h with
  | quiet _ howed hsent => exact howed ▸ List.Subset.refl _
  | answers y _ howed hm => exact fun x hx => howed.symm.subset (List.mem_cons_of_mem _ hx)
  | drops y howed hy => exact fun x hx => howed.symm.subset (List.mem_cons_of_mem _ hx)

end Worked

/-- The command in processing that has not been answered. -/
def RxPc.unanswered? : RxPc → Option (Item RxCommand)
  | .handle c | .setParameters c _ | .lock c _ | .swap c _ | .unlock c _ _ | .destroyOld c _ _
  | .respond c _ _ _ => some c
  | .loop | .complete _ | .checkRx | .callback _ | .finished => none

namespace RxWorker

/-- The commands the worker still has to answer, in the order in which it will. -/
def unanswered (w : RxWorker) : List (Item RxCommand) := w.pc.unanswered?.toList ++ w.queue.pending

/-- The answers the worker owes. -/
def owed (w : RxWorker) : List (Item About) := w.unanswered.map (Item.map RxCommand.about)

/-- The callback sends soft bits and nothing else. -/
theorem callback_sent {user : ModemUser} {w w' : RxWorker} {pc : CallbackPc} {r : RxResult}
    {pc' : Option CallbackPc} {sent : Option Sent} (h : w.callbackStep user pc r = some (w', pc', sent)) :
    ∀ m ∈ sent, ∃ id bits, m.message = .softBits id bits := by
  cases callbackStep_effect h with
  | send owner bits => simp
  | _ => simp

theorem deviceStep_sent {w w' : RxWorker} {r : RxResult} {sent : Option Sent}
    (h : w.deviceStep r = some (w', sent)) : ∀ m ∈ sent, ∃ id bits, m.message = .softBits id bits := by
  unfold deviceStep at h
  split at h
  · split at h
    · cases h; simp
    · cases h
  · obtain ⟨⟨v, pc', sent'⟩, hv, he⟩ := Option.map_eq_some_iff.mp h
    cases he
    exact callback_sent hv

/-- The worker sends soft bits and responses. -/
theorem Effect.sent {w w' : RxWorker} {r : RxResult} {m : Sent} (h : Effect w r w' (some m)) :
    (∃ id bits, m.message = .softBits id bits) ∨
      ∃ id status details, m.message = .response id status details := by
  cases h with
  | respond c status details modem hpc => exact Or.inr ⟨_, _, _, rfl⟩
  | callback _ pc v pc' _ hpc hcb => exact Or.inl (callback_sent hcb m rfl)

theorem owed_of_unanswered {w w' : RxWorker} (h : w'.unanswered = w.unanswered) :
    w'.owed = w.owed := by
  rw [owed, owed, h]

/-- **Every step answers the first command or none.** -/
theorem Effect.worked {w w' : RxWorker} {r : RxResult} {sent : Option Sent}
    (h : Effect w r w' sent) : Worked (fun _ => False) w.owed w'.owed sent := by
  cases h with
  | receive c rest hpc hq =>
    refine .quiet _ (owed_of_unanswered ?_) (by simp)
    rw [unanswered, unanswered, hpc, hq]
    rfl
  | respond c status details modem hpc =>
    refine .answers (c.map RxCommand.about) _ (List.Perm.of_eq ?_) rfl
    rw [owed, unanswered, hpc]
    rfl
  | callback _ pc v pc' _ hpc hcb =>
    -- soft bits may be sent, but they answer nothing
    refine .quiet _ (owed_of_unanswered ?_) fun m hm => Sent.item?_softBits (callback_sent hcb m hm)
    have hframe := callbackStep_frame hcb
    rw [unanswered, unanswered, hpc, hframe]
    cases pc' <;> rfl
  | _ =>
    refine .quiet _ (owed_of_unanswered ?_) (by simp)
    rw [unanswered, unanswered, ‹w.pc = _›]
    rfl

theorem deviceStep_worked {w w' : RxWorker} {r : RxResult} {sent : Option Sent}
    (h : w.deviceStep r = some (w', sent)) : Worked (fun _ => False) w.owed w'.owed sent := by
  exact .quiet _ (by rw [deviceStep_frame h]; rfl) fun m hm =>
    Sent.item?_softBits (deviceStep_sent h m hm)

/-- No step closes the queue. -/
theorem Effect.closed {w w' : RxWorker} {r : RxResult} {sent : Option Sent}
    (h : Effect w r w' sent) : w'.queue.closed = w.queue.closed := by
  cases h with
  | callback _ pc v pc' _ hpc hcb => rw [callbackStep_frame hcb]
  | _ => rfl

end RxWorker

/-- The command in processing that has not been answered. -/
def TxPc.unanswered? : TxPc → Option (Item TxCommand)
  | .handle c | .processFrame c _ | .flush c _ | .processTail c _ _ | .report c _ _ _
  | .setParameters c | .respond c _ _ => some c
  | .take | .complete | .finished => none

namespace TxWorker

/-- The commands the worker still has to answer, in the order in which it will. -/
def unanswered (w : TxWorker) : List (Item TxCommand) := w.pc.unanswered?.toList ++ w.queue.pending

/-- The answers the worker owes. -/
def owed (w : TxWorker) : List (Item About) := w.unanswered.map (Item.map TxCommand.about)

/-- The worker is about to drop a frame: there is no modem. -/
def Dropping (w : TxWorker) (x : Item About) : Prop :=
  w.modem = none ∧ ∃ c, w.pc = .handle c ∧ x = c.map TxCommand.about ∧ x.val.frame = true

theorem owed_of_answered {w w' : TxWorker} {c : Item TxCommand} (hpc : w.pc.unanswered? = some c)
    (hpc' : w'.pc.unanswered? = none) (hq : w'.queue.pending = w.queue.pending) :
    w.owed.Perm (c.map TxCommand.about :: w'.owed) := by
  rw [owed, owed, unanswered, unanswered, hpc, hpc', hq]
  exact List.Perm.refl _

end TxWorker

/-- A frame is reported on and settings are responded to, not the other way round. -/
def TxPc.Typed : TxPc → Prop
  | .processFrame c _ | .flush c _ | .processTail c _ _ | .report c _ _ _ =>
      c.val.about.frame = true
  | .setParameters c | .respond c _ _ => c.val.about.frame = false
  | .take | .handle _ | .complete | .finished => True

namespace TxWorker

theorem Effect.typed {w w' : TxWorker} {r : TxResult} {sent : Option Sent}
    (h : Effect w r w' sent) (hw : w.pc.Typed) : w'.pc.Typed := by
  cases h with
  | modulate c id buffer m m' modulated interpolated output hpc hc hm hout =>
    show c.val.about.frame = true
    rw [hc]
    rfl
  | refused _ c id buffer hpc hc =>
    show c.val.about.frame = false
    rw [hc]
    rfl
  | created c id buffer hpc hc =>
    show c.val.about.frame = false
    rw [hc]
    rfl
  | receive | stopped | noModem | report | respond | complete => trivial
  | _ =>
    rw [‹w.pc = _›] at hw
    exact hw

/-- The answer to a command. -/
theorem about_eq (c : TxCommand) (frame : Bool) (h : c.about.frame = frame) :
    c.about = ⟨c.requestId, frame⟩ := by
  cases c <;> cases h <;> rfl

/-- **Every step answers the first command or none**, except that a frame without
a modem is dropped. -/
theorem Effect.worked {w w' : TxWorker} {r : TxResult} {sent : Option Sent}
    (h : Effect w r w' sent) (hw : w.pc.Typed) : Worked w.Dropping w.owed w'.owed sent := by
  cases h with
  | receive c rest hpc hq =>
    refine .quiet _ ?_ (by simp)
    rw [owed, owed, unanswered, unanswered, hpc, hq]
    rfl
  | noModem c id buffer hpc hc hm =>
    -- `worker->modem == NULL`: the command is completed without a word
    refine .drops (c.map TxCommand.about) (owed_of_answered (by rw [hpc]; rfl) rfl rfl) ?_
    exact ⟨hm, c, hpc, rfl, by rw [Item.map, hc]; rfl⟩
  | report c status details t hpc =>
    rw [hpc] at hw
    refine .answers _ _ (owed_of_answered (by rw [hpc]; rfl) rfl rfl) ?_
    rw [Item.map, about_eq c.val true hw]
    rfl
  | respond c status details hpc =>
    rw [hpc] at hw
    refine .answers _ _ (owed_of_answered (by rw [hpc]; rfl) rfl rfl) ?_
    rw [Item.map, about_eq c.val false hw]
    rfl
  | _ =>
    refine .quiet _ ?_ (by simp)
    rw [owed, owed, unanswered, unanswered, ‹w.pc = _›]
    rfl

end TxWorker

/-! ## The client tx worker -/

/-- `client_socket` after a message was handled. -/
def socketAfter (clientSocket : Int) (m : Sent) : Int :=
  match m.message with
  | .newClient fd => fd
  | _ => clientSocket

/-- The messages of a queue, each with the socket it will meet. -/
def assign : Int → List Sent → List (Int × Sent)
  | _, [] => []
  | fd, m :: ms => (fd, m) :: assign (socketAfter fd m) ms

theorem assign_append (fd : Int) (ms ns : List Sent) :
    assign fd (ms ++ ns) = assign fd ms ++ assign (ms.foldl socketAfter fd) ns := by
  induction ms generalizing fd with
  | nil => rfl
  | cons m ms ih => rw [List.cons_append, assign, ih]; rfl

theorem assign_map_snd (fd : Int) (ms : List Sent) : (assign fd ms).map Prod.snd = ms := by
  induction ms generalizing fd with
  | nil => rfl
  | cons m ms ih => rw [assign, List.map_cons, ih]

/-- If the socket changes, so does that of the messages in front of the next
client, and of no others. -/
theorem mem_assign_change {fd fd' : Int} {ms : List Sent} {p : Int × Sent}
    (h : p ∈ assign fd' ms) : p ∈ assign fd ms ∨ (p.1 = fd' ∧ (fd, p.2) ∈ assign fd ms) := by
  induction ms generalizing fd fd' with
  | nil => cases h
  | cons m ms ih =>
    rcases List.mem_cons.mp h with rfl | h
    · exact Or.inr ⟨rfl, List.mem_cons_self⟩
    · cases hm : m.message with
      | newClient fd'' =>
        -- from here on the sockets are the same
        have hs : ∀ x, socketAfter x m = fd'' := fun x => by rw [socketAfter, hm]
        rw [hs] at h
        refine Or.inl (List.mem_cons_of_mem _ ?_)
        rw [hs]
        exact h
      | _ =>
        have hs : ∀ x, socketAfter x m = x := fun x => by rw [socketAfter, hm]
        rw [hs] at h
        rw [assign, hs]
        exact (ih h).imp (List.mem_cons_of_mem _)
          fun ⟨h1, h2⟩ => ⟨h1, List.mem_cons_of_mem _ h2⟩

/-- A queue with a new client in it does not care for the socket before. -/
theorem foldl_socketAfter (ms : List Sent) :
    (∀ fd, ms.foldl socketAfter fd = fd) ∨ ∃ fd', ∀ fd, ms.foldl socketAfter fd = fd' := by
  induction ms with
  | nil => exact Or.inl fun _ => rfl
  | cons m ms ih =>
    rcases ih with ih | ⟨fd', ih⟩
    · cases hm : m.message with
      | newClient fd' =>
        refine Or.inr ⟨fd', fun fd => ?_⟩
        rw [List.foldl_cons, ih, socketAfter, hm]
      | _ =>
        refine Or.inl fun fd => ?_
        rw [List.foldl_cons, ih, socketAfter, hm]
    · exact Or.inr ⟨fd', fun fd => ih _⟩

/-- The message in hand of which a part is still to be written. -/
def ClientTxPc.unwritten? (part : Part) : ClientTxPc → Option Sent
  | .header m => some m
  | .payload m => if part = .payload then some m else none
  | .take | .complete | .finished => none

namespace ClientTxWorker

/-- The messages of which a part is still to be written, each with the socket it
will meet. -/
def upcoming (part : Part) (w : ClientTxWorker) : List (Int × Sent) :=
  (w.pc.unwritten? part).toList.map (fun m => (w.clientSocket, m)) ++
    assign w.clientSocket w.queue.pending

/-- The socket that the next message put into the queue will meet. -/
def endSocket (w : ClientTxWorker) : Int := w.queue.pending.foldl socketAfter w.clientSocket

/-- `queue_put`: a message that does not fit is refused, and so is every message
once the queue is closed. -/
def put (bufferSize : Nat) (w : ClientTxWorker) (m : Sent) : ClientTxWorker :=
  if w.queue.closed = false ∧ fitsClientTx bufferSize m = true then
    { w with queue := { w.queue with pending := w.queue.pending ++ [m] } }
  else w

/-- A message is put into the queue, if there is one. -/
def put? (bufferSize : Nat) (w : ClientTxWorker) : Option Sent → ClientTxWorker
  | none => w
  | some m => w.put bufferSize m

variable {bufferSize : Nat} {w w' : ClientTxWorker}

theorem put_closed (m : Sent) : (w.put bufferSize m).queue.closed = w.queue.closed := by
  unfold put
  split <;> rfl

theorem put?_closed (sent : Option Sent) :
    (w.put? bufferSize sent).queue.closed = w.queue.closed := by
  cases sent with
  | none => rfl
  | some m => exact put_closed m

theorem upcoming_put {m : Sent} (part : Part) (ho : w.queue.closed = false)
    (hm : fitsClientTx bufferSize m = true) :
    (w.put bufferSize m).upcoming part = w.upcoming part ++ [(w.endSocket, m)] := by
  rw [put, if_pos ⟨ho, hm⟩, upcoming, upcoming, List.append_assoc]
  congr 1
  exact assign_append _ _ _

theorem endSocket_put {m : Sent} (ho : w.queue.closed = false)
    (hm : fitsClientTx bufferSize m = true) :
    (w.put bufferSize m).endSocket = socketAfter w.endSocket m := by
  rw [put, if_pos ⟨ho, hm⟩]
  simp [endSocket]

/-- What is on its way after a `queue_put`: what was before, and at most the
message. -/
theorem mem_upcoming_put {part : Part} {m : Sent} {p : Int × Sent}
    (h : p ∈ (w.put bufferSize m).upcoming part) : p ∈ w.upcoming part ∨ p = (w.endSocket, m) := by
  by_cases hput : w.queue.closed = false ∧ fitsClientTx bufferSize m = true
  · rw [upcoming_put part hput.1 hput.2] at h
    exact (List.mem_append.mp h).imp id List.mem_singleton.mp
  · rw [put, if_neg hput] at h
    exact Or.inl h

/-- A message that is not about a new client does not change the socket. -/
theorem endSocket_put_of_ne {m : Sent} (hm : ∀ fd, m.message ≠ .newClient fd) :
    (w.put bufferSize m).endSocket = w.endSocket := by
  by_cases hput : w.queue.closed = false ∧ fitsClientTx bufferSize m = true
  · rw [endSocket_put hput.1 hput.2, socketAfter]
    split
    · exact absurd ‹_› (hm _)
    · rfl
  · rw [put, if_neg hput]

/-- **What a step of the worker does to the messages on their way.** -/
inductive Flow (part : Part) (w w' : ClientTxWorker) : ClientTxLabel → Option Written → Prop where
  | kept (l) (out : Option Written) (hup : w'.upcoming part = w.upcoming part)
      (hend : w'.endSocket = w.endSocket) (hout : ∀ o ∈ out, o.part ≠ part) : Flow part w w' l out
  /-- A new client, or a message without a client. -/
  | skipped (l) (m : Sent) (hup : w.upcoming part = (w.clientSocket, m) :: w'.upcoming part)
      (hend : w'.endSocket = w.endSocket) (hm : m.item? = none ∨ w.clientSocket < 0) :
      Flow part w w' l none
  | wrote (m : Sent) (hup : w.upcoming part = (w.clientSocket, m) :: w'.upcoming part)
      (hend : w'.endSocket = w.endSocket) :
      Flow part w w' (.write true) (some ⟨part, w.clientSocket, m⟩)
  /-- A write fails, and the socket is given up: what was to meet it meets none. -/
  | failed
      (hmem : ∀ p ∈ w'.upcoming part,
        p ∈ w.upcoming part ∨ (p.1 = -1 ∧ (w.clientSocket, p.2) ∈ w.upcoming part))
      (hsent : ∃ lost : Option Sent, (w.upcoming part).map Prod.snd =
        lost.toList ++ (w'.upcoming part).map Prod.snd ∧
          ∀ m ∈ lost, (w.clientSocket, m) ∈ w.upcoming part)
      (hend : w'.endSocket = w.endSocket ∨ (w'.endSocket = -1 ∧ w.endSocket = w.clientSocket)) :
      Flow part w w' (.write false) none

theorem handle_flow (part : Part) {m : Sent} {rest : List Sent} (hpc : w.pc = .take)
    (hq : w.queue.pending = m :: rest) (l : ClientTxLabel) :
    Flow part w (({ w with queue := { w.queue with pending := rest, inFlight := some m } } :
      ClientTxWorker).handle m) l none := by
  have hup : w.upcoming part = (w.clientSocket, m) :: assign (socketAfter w.clientSocket m) rest := by
    rw [upcoming, hpc, hq]
    rfl
  have hend : w.endSocket = rest.foldl socketAfter (socketAfter w.clientSocket m) := by
    rw [endSocket, hq]
    rfl
  unfold handle
  cases hm : m.message with
  | newClient fd =>
    have hs : socketAfter w.clientSocket m = fd := by rw [socketAfter, hm]
    rw [hs] at hup hend
    exact .skipped _ m hup hend.symm (Or.inl (by rw [Sent.item?, hm]; rfl))
  | _ =>
    have hs : socketAfter w.clientSocket m = w.clientSocket := by rw [socketAfter, hm]
    rw [hs] at hup hend
    simp only
    split
    · exact .skipped _ m hup hend.symm (Or.inr ‹_›)
    · exact .kept _ _ hup.symm hend.symm (by simp)

/-- The socket is given up. -/
theorem failed_flow (part : Part) :
    Flow part w { w with clientSocket := -1, pc := .complete } (.write false) none := by
  refine .failed ?_ ?_ ?_
  · intro p hp
    have hp : p ∈ assign (-1) w.queue.pending := hp
    exact (mem_assign_change hp).imp (List.mem_append_right _)
      fun ⟨h1, h2⟩ => ⟨h1, List.mem_append_right _ h2⟩
  · refine ⟨w.pc.unwritten? part, ?_, ?_⟩
    · show (_ ++ assign _ _).map _ = _ ++ (assign (-1) w.queue.pending).map _
      rw [List.map_append, assign_map_snd, assign_map_snd, List.map_map]
      simp
    · intro m hm
      refine List.mem_append_left _ (List.mem_map.mpr ⟨m, ?_, rfl⟩)
      exact Option.mem_toList.mpr hm
  · show w.queue.pending.foldl socketAfter (-1) = w.endSocket ∨ _
    -- the next client in the queue, if there is one, decides what is met at its end
    rcases foldl_socketAfter w.queue.pending with h | ⟨fd', h⟩
    · exact Or.inr ⟨h _, h _⟩
    · exact Or.inl (by rw [endSocket, h, h])

theorem step_flow (part : Part) {l : ClientTxLabel} {out : Option Written}
    (h : w.step l = some (w', out)) : Flow part w w' l out := by
  cases l with
  | next =>
    simp only [step] at h
    split at h
    · rename_i hpc
      split at h
      · rename_i m rest hq
        cases h
        exact handle_flow part hpc hq _
      · split at h
        · cases h
          refine .kept _ _ ?_ rfl (by simp)
          rw [upcoming, upcoming, hpc]
          rfl
        · cases h
    · rename_i hpc
      cases h
      refine .kept _ _ ?_ rfl (by simp)
      rw [upcoming, upcoming, hpc]
      rfl
    · cases h
  | write ok =>
    simp only [step] at h
    split at h
    · rename_i m hpc
      split at h
      · rename_i hok
        cases h
        rw [hok]
        cases part with
        | header =>
          refine .wrote m ?_ rfl
          rw [upcoming, upcoming, hpc]
          rfl
        | payload =>
          refine .kept _ _ ?_ rfl (by simp)
          rw [upcoming, upcoming, hpc]
          rfl
      · rename_i hok
        rw [Bool.not_eq_true] at hok
        cases h
        rw [hok]
        exact failed_flow part
    · rename_i m hpc
      split at h
      · rename_i hok
        cases h
        rw [hok]
        cases part with
        | header =>
          refine .kept _ _ ?_ rfl (by simp)
          rw [upcoming, upcoming, hpc]
          rfl
        | payload =>
          refine .wrote m ?_ rfl
          rw [upcoming, upcoming, hpc]
          rfl
      · rename_i hok
        rw [Bool.not_eq_true] at hok
        split at h
        · cases h
        · cases h
          rw [hok]
          exact failed_flow part
    · cases h

/-- The header is written before the payload. -/
theorem upcoming_header_subset (w : ClientTxWorker) :
    w.upcoming .header ⊆ w.upcoming .payload := by
  intro p hp
  rcases List.mem_append.mp hp with hp | hp
  · refine List.mem_append_left _ ?_
    unfold ClientTxPc.unwritten? at hp ⊢
    split at hp <;> simp_all
  · exact List.mem_append_right _ hp

/-- What is written was on its way, with the socket of the worker. -/
theorem mem_upcoming_of_write {l : ClientTxLabel} {o : Written}
    (h : w.step l = some (w', some o)) :
    o.clientSocket = w.clientSocket ∧ (w.clientSocket, o.sent) ∈ w.upcoming .payload := by
  cases hpart : o.part with
  | header =>
    cases step_flow .header h with
    | kept _ _ hup hend hout => exact absurd hpart (hout o rfl)
    | wrote m hup hend =>
      refine ⟨rfl, upcoming_header_subset w ?_⟩
      rw [hup]
      exact List.mem_cons_self
  | payload =>
    cases step_flow .payload h with
    | kept _ _ hup hend hout => exact absurd hpart (hout o rfl)
    | wrote m hup hend =>
      refine ⟨rfl, ?_⟩
      rw [hup]
      exact List.mem_cons_self

/-- Nothing comes into the way of the messages by a step of the worker. -/
theorem mem_upcoming_of_step {l : ClientTxLabel} {out : Option Written}
    (h : w.step l = some (w', out)) {p : Int × Sent} (hp : p ∈ w'.upcoming .payload) :
    p ∈ w.upcoming .payload ∨ (p.1 = -1 ∧ (w.clientSocket, p.2) ∈ w.upcoming .payload) := by
  cases step_flow .payload h with
  | kept _ _ hup hend hout => exact Or.inl (hup ▸ hp)
  | skipped _ m hup hend hm => exact Or.inl (hup ▸ List.mem_cons_of_mem _ hp)
  | wrote m hup hend => exact Or.inl (hup ▸ List.mem_cons_of_mem _ hp)
  | failed hmem hsent hend => exact hmem p hp

theorem step_closed {l : ClientTxLabel} {out : Option Written} (h : w.step l = some (w', out)) :
    w'.queue.closed = w.queue.closed := by
  have hhandle : ∀ (v : ClientTxWorker) (m : Sent), (v.handle m).queue.closed = v.queue.closed := by
    intro v m
    unfold handle
    split
    · rfl
    · split <;> rfl
  unfold step at h
  split at h
  · split at h
    · split at h
      · cases h; exact hhandle _ _
      · split at h
        · cases h; rfl
        · cases h
    · cases h; rfl
    · cases h
  · split at h
    · split at h
      · cases h; rfl
      · cases h; rfl
    · split at h
      · cases h; rfl
      · split at h
        · cases h
        · cases h; rfl
    · cases h

end ClientTxWorker

end SdrModem
