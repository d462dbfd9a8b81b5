import TransHub.Foundation.Linked
import TransHub.Realtime.Sockets
import TransHub.Waybills.Tracking

/-!
# Tracking a parcel

The calls on one waybill, linked to the sockets: `emitTrackingUpdate` puts an event on the bus,
and the bridge sends it to the room of the number.  Sockets connect, ask and leave at any time
between the steps of the calls, and the other events of the bus go their way, those about other
waybills included.

* `tracking`: the two systems, linked.
* `updates`: the updates that a socket has been sent; `Told`: what one of them is about.
* `trackers_informed`: what a socket is told that stays in the room.
-/

namespace TransHub
namespace Realtime

variable {io : SocketIo} {Token : Type} {verifyAccessToken : Token → Option SocketUser}
  {text : ℕ → String} {waybillId : WaybillId}

/-- The event `waybill.tracking_updated`; `text` is how the number is written. -/
def pushEvent (text : ℕ → String) (p : WaybillPush) : BusEvent :=
  .trackingUpdated (text p.waybillNo) p.status p.events

/-- The message that trackers receive. -/
def pushMessage (p : WaybillPush) : SocketMessage := .waybillUpdate p.status p.events

/-- What a step of the calls has pushed goes to the bus.  Nothing else there is about this
waybill; what is about another one has its number. -/
def trackingLink (Token : Type) (text : ℕ → String) :
    Link (Config WaybillDB WaybillProc) (SocketAct Token) where
  feeds c c' := ((c'.shared.pushes.drop c.shared.pushes.length).map (pushEvent text)).map .emit
  allows c
    | .emit (.trackingUpdated waybillNo _ _) =>
        c.shared.view.all fun p => decide (waybillNo ≠ text p.waybillNo)
    | _ => true

/-- Runs of the calls on a waybill and of the sockets. -/
def tracking (io : SocketIo) (verifyAccessToken : Token → Option SocketUser) (text : ℕ → String)
    (waybillId : WaybillId) :
    System (Config WaybillDB WaybillProc × SocketServer io)
      (Act WaybillOp WaybillInput (WaybillRequest × Time) ⊕ SocketAct Token) :=
  (waybills waybillId).link (sockets io verifyAccessToken) (trackingLink Token text)

def SocketMessage.isUpdate : SocketMessage → Bool
  | waybillUpdate _ _ => true
  | _ => false

/-- The updates that a socket has been sent. -/
def updates (id : String) (s : SocketServer io) : List SocketMessage :=
  (Rooms.inbox id s.sent).filter SocketMessage.isUpdate

section Steps

variable {s s' : SocketServer io} {id : String} {waybillNo : String}

/-- Events on the bus leave the rooms as they are, and reach the sockets in their rooms. -/
theorem emit_run {es : List BusEvent}
    (h : (sockets io verifyAccessToken).run s (es.map .emit) = some s') (id : String) :
    s'.rooms = s.rooms ∧ Rooms.inbox id s'.sent = Rooms.inbox id s.sent ++
      (es.filter fun e => io.adapter.In s.rooms id e.place.name).map BusEvent.message := by
  induction es generalizing s with
  | nil =>
    rw [List.map_nil, System.run_nil, Option.some.injEq] at h
    rw [h]
    exact ⟨rfl, (List.append_nil _).symm⟩
  | cons e es ih =>
    obtain ⟨t, ht, hes⟩ := (sockets io verifyAccessToken).run_cons_eq_some.mp h
    have hinbox := inbox_step ht id
    obtain rfl := Option.some.inj ht
    obtain ⟨hrooms, htail⟩ := ih hes
    refine ⟨hrooms, ?_⟩
    rw [htail, hinbox, List.append_assoc]
    congr 1
    show (if io.adapter.In s.rooms id e.place.name then [e.message] else []) ++ _ = _
    by_cases hin : io.adapter.In s.rooms id e.place.name
    · rw [if_pos hin, List.filter_cons_of_pos (by simpa using hin)]
      rfl
    · rw [if_neg hin, List.filter_cons_of_neg (by simpa using hin)]
      rfl

/-- Pushes reach a socket in the room of their number. -/
theorem updates_run {news : List WaybillPush}
    (h : (sockets io verifyAccessToken).run s ((news.map (pushEvent text)).map .emit) = some s')
    (hin : io.adapter.In s.rooms id (waybillRoom waybillNo))
    (hno : ∀ p ∈ news, text p.waybillNo = waybillNo) :
    io.adapter.In s'.rooms id (waybillRoom waybillNo) ∧
      updates id s' = updates id s ++ news.map pushMessage := by
  obtain ⟨hrooms, hinbox⟩ := emit_run h id
  have hall : (news.map (pushEvent text)).filter (fun e => io.adapter.In s.rooms id e.place.name) =
      news.map (pushEvent text) := by
    refine List.filter_eq_self.mpr ?_
    intro e he
    obtain ⟨p, hp, rfl⟩ := List.mem_map.mp he
    refine decide_eq_true ?_
    show io.adapter.In s.rooms id (waybillRoom (text p.waybillNo))
    rwa [hno p hp]
  refine ⟨by rwa [hrooms], ?_⟩
  rw [updates, hinbox, hall, List.filter_append, List.map_map]
  congr 1
  refine List.filter_eq_self.mpr ?_
  intro e he
  obtain ⟨p, -, rfl⟩ := List.mem_map.mp he
  rfl

/-- What an update is about: a push of the calls, or else it is the message of another parcel. -/
abbrev Told := WaybillPush ⊕ SocketMessage

def Told.message : Told → SocketMessage
  | .inl p => pushMessage p
  | .inr message => message

/-- The act puts the update of another parcel on the bus. -/
def Foreign (waybillNo : String) (b : SocketAct Token) (message : SocketMessage) : Prop :=
  ∃ no status events, no ≠ waybillNo ∧ b = .emit (.trackingUpdated no status events) ∧
    message = .waybillUpdate status events

/-- What else happens at the sockets sends no update but one of another parcel, and a socket that
has not left the room is still there. -/
theorem updates_step {b : SocketAct Token} {c : Config WaybillDB WaybillProc} {p : WaybillPush}
    (h : (sockets io verifyAccessToken).step s b = some s')
    (hallows : (trackingLink Token text).allows c b = true) (hview : c.shared.view = some p)
    (hin : io.adapter.In s.rooms id (waybillRoom (text p.waybillNo)))
    (hstay : ¬ Exits id (.waybill (text p.waybillNo)) b) :
    io.adapter.In s'.rooms id (waybillRoom (text p.waybillNo)) ∧ ∃ others : List SocketMessage,
      updates id s' = updates id s ++ others ∧
      ∀ message ∈ others, Foreign (text p.waybillNo) b message := by
  refine ⟨(in_step h id (.waybill (text p.waybillNo))).mpr (Or.inr ⟨hin, hstay⟩),
    (reaches s id b).filter SocketMessage.isUpdate, ?_, ?_⟩
  · rw [updates, inbox_step h id, List.filter_append, updates]
  · intro message hmem
    obtain ⟨hmem, hupdate⟩ := List.mem_filter.mp hmem
    cases b with
    | emit e =>
      have hmessage : message = e.message := by
        dsimp only [reaches] at hmem
        split at hmem
        · exact List.mem_singleton.mp hmem
        · exact absurd hmem List.not_mem_nil
      subst hmessage
      cases e with
      | trackingUpdated no status events =>
        simp only [trackingLink, hview, Option.all_some, decide_eq_true_eq] at hallows
        exact ⟨no, status, events, hallows, rfl, rfl⟩
      | _ => exact absurd hupdate (by simp [BusEvent.message, SocketMessage.isUpdate])
    | _ => exact absurd hmem List.not_mem_nil

end Steps

/-- What a run keeps of a socket that stays in the room: what it has been told is the pushes, in
order, and between them updates of other parcels. -/
structure Tells (m : Config WaybillDB WaybillProc × SocketServer io) (id : String)
    (w : Waybill) (text : ℕ → String)
    (acts : List (Act WaybillOp WaybillInput (WaybillRequest × Time) ⊕ SocketAct Token))
    (n : Config WaybillDB WaybillProc × SocketServer io) (told : List Told) : Prop where
  stays : io.adapter.In n.2.rooms id (waybillRoom (text w.waybillNo))
  view : ∃ p, n.1.shared.view = some p ∧ p.waybillNo = w.waybillNo
  pushes : n.1.shared.pushes = m.1.shared.pushes ++ told.filterMap Sum.getLeft?
  updates : updates id n.2 = updates id m.2 ++ told.map Told.message
  foreign : ∀ message, .inr message ∈ told →
    ∃ b, .inr b ∈ acts ∧ Foreign (text w.waybillNo) b message

section Runs

variable {m n n' : Config WaybillDB WaybillProc × SocketServer io} {id : String} {w : Waybill}
  {acts : List (Act WaybillOp WaybillInput (WaybillRequest × Time) ⊕ SocketAct Token)}
  {told : List Told}

/-- A step of the calls. -/
theorem Tells.calls (h : Tells m id w text acts n told)
    {b : Act WaybillOp WaybillInput (WaybillRequest × Time)}
    (hs : (waybills waybillId).step n.1 b = some n'.1)
    (hfed : (sockets io verifyAccessToken).run n.2
      ((trackingLink Token text).feeds n.1 n'.1) = some n'.2) :
    ∃ more : List WaybillPush, Tells m id w text (acts ++ [.inl b]) n' (told ++ more.map .inl) := by
  obtain ⟨p, hp, hno⟩ := h.view
  obtain ⟨q, more, hq, hqno, hmore, hnew, -⟩ := waybill_tracking_step hs hp
  have hfeeds : (trackingLink Token text).feeds n.1 n'.1 =
      (more.map (pushEvent text)).map .emit := by
    show ((n'.1.shared.pushes.drop _).map (pushEvent text)).map _ = _
    rw [hmore, List.drop_left]
  rw [hfeeds] at hfed
  obtain ⟨hin, hupdates⟩ := updates_run hfed h.stays fun k hk => by
    rw [hnew k hk, hqno, hno]
  refine ⟨more, hin, ⟨q, hq, hqno.trans hno⟩, ?_, ?_, ?_⟩
  · have hleft : (more.map Sum.inl : List Told).filterMap Sum.getLeft? = more := by
      rw [List.filterMap_map]
      exact List.filterMap_some
    rw [hmore, h.pushes, List.filterMap_append, hleft, List.append_assoc]
  · rw [hupdates, h.updates, List.map_append, List.map_map, List.append_assoc]
    rfl
  · intro message hmem
    rcases List.mem_append.mp hmem with hmem | hmem
    · obtain ⟨k, hk, hforeign⟩ := h.foreign message hmem
      exact ⟨k, List.mem_append_left _ hk, hforeign⟩
    · obtain ⟨k, -, heq⟩ := List.mem_map.mp hmem
      cases heq

/-- A step at the sockets. -/
theorem Tells.sockets (h : Tells m id w text acts n told) {b : SocketAct Token}
    (hallows : (trackingLink Token text).allows n.1 b = true)
    (hs : (Realtime.sockets io verifyAccessToken).step n.2 b = some n'.2) (hsame : n'.1 = n.1)
    (hstay : ¬ Exits id (.waybill (text w.waybillNo)) b) :
    ∃ others : List SocketMessage,
      Tells m id w text (acts ++ [.inr b]) n' (told ++ others.map .inr) := by
  obtain ⟨p, hp, hno⟩ := h.view
  have hin := h.stays
  rw [← hno] at hin hstay
  obtain ⟨hin', others, hupdates, hforeign⟩ := updates_step hs hallows hp hin hstay
  rw [hno] at hin' hforeign
  refine ⟨others, hin', ⟨p, by rw [hsame]; exact hp, hno⟩, ?_, ?_, ?_⟩
  · have hright : (others.map Sum.inr : List Told).filterMap Sum.getLeft? = [] := by
      rw [List.filterMap_map]
      exact List.filterMap_none others
    rw [hsame, h.pushes, List.filterMap_append, hright, List.append_nil]
  · have hmessages : (others.map Sum.inr : List Told).map Told.message = others := by
      rw [List.map_map]
      exact List.map_id others
    rw [hupdates, h.updates, List.map_append, hmessages, List.append_assoc]
  · intro message hmem
    rcases List.mem_append.mp hmem with hmem | hmem
    · obtain ⟨k, hk, hforeign'⟩ := h.foreign message hmem
      exact ⟨k, List.mem_append_left _ hk, hforeign'⟩
    · obtain ⟨k, hk, heq⟩ := List.mem_map.mp hmem
      cases heq
      exact ⟨b, List.mem_append_right _ (List.mem_singleton_self _), hforeign _ hk⟩

/-- The updates of a socket that stays in the room. -/
theorem exists_tells (hrow : m.1.shared.row = some w)
    (hin : io.adapter.In m.2.rooms id (waybillRoom (text w.waybillNo)))
    (hstay : ∀ b, .inr b ∈ acts → ¬ Exits id (.waybill (text w.waybillNo)) b)
    (hrun : (tracking io verifyAccessToken text waybillId).run m acts = some n) :
    ∃ told, Tells m id w text acts n told := by
  refine System.run_rule (P := fun acts n =>
    (∀ b, .inr b ∈ acts → ¬ Exits id (.waybill (text w.waybillNo)) b) →
    ∃ told, Tells m id w text acts n told) hrun ?_ ?_ hstay
  · intro _
    refine ⟨[], hin, ⟨⟨w.waybillNo, w.status, m.1.shared.events⟩, ?_, rfl⟩,
      (List.append_nil _).symm, (List.append_nil _).symm, fun _ hmem => ?_⟩
    · rw [WaybillDB.view, hrow, Option.map_some]
    · exact absurd hmem List.not_mem_nil
  · intro acts r a r' _ ih hs hstay
    obtain ⟨told, htold⟩ := ih fun b hb => hstay b (List.mem_append_left _ hb)
    rcases System.link_cases hs with ⟨b, rfl, hb, hfed⟩ | ⟨b, rfl, hallows, hb, hsame⟩
    · obtain ⟨more, hmore⟩ := htold.calls hb hfed
      exact ⟨_, hmore⟩
    · obtain ⟨others, hothers⟩ := htold.sockets hallows hb hsame
        (hstay b (List.mem_append_right _ (List.mem_singleton_self _)))
      exact ⟨_, hothers⟩

/-- **Who tracks a parcel is told.**  A socket that is in the room of a submitted waybill, and
stays there, is sent exactly the pushes of the calls, in order, and between them only the updates
of other parcels.  Each push tells what the row said in some state meanwhile; and when no call
has a push left and no statement has failed between a change and its push, what the row says now
has not changed or has been sent. -/
theorem trackers_informed (hrow : m.1.shared.row = some w)
    (hin : io.adapter.In m.2.rooms id (waybillRoom (text w.waybillNo)))
    (hstay : ∀ b, .inr b ∈ acts → ¬ Exits id (.waybill (text w.waybillNo)) b)
    (hrun : (tracking io verifyAccessToken text waybillId).run m acts = some n) :
    ∃ q news, ∃ told : List Told, n.1.shared.view = some q ∧
      n.1.shared.pushes = m.1.shared.pushes ++ news ∧
      updates id n.2 = updates id m.2 ++ told.map Told.message ∧
      told.filterMap Sum.getLeft? = news ∧
      (∀ message, .inr message ∈ told →
        ∃ b, .inr b ∈ acts ∧ Foreign (text w.waybillNo) b message) ∧
      (∀ p ∈ news, ∃ t ∈ (waybills waybillId).trace m.1 (System.lefts acts),
        t.shared.view = some p) ∧
      ((waybills waybillId).AllSteps WaybillUndisturbed m.1 (System.lefts acts) →
        ¬ WaybillUnannounced n.1 → m.1.shared.view = some q ∨ q ∈ news) := by
  have hview : m.1.shared.view = some ⟨w.waybillNo, w.status, m.1.shared.events⟩ := by
    rw [WaybillDB.view, hrow, Option.map_some]
  obtain ⟨q, news, hq, -, hpushes, hsaid, hlast⟩ := waybill_tracked hview (System.link_left hrun)
  obtain ⟨told, htold⟩ := exists_tells hrow hin hstay hrun
  obtain rfl : news = told.filterMap Sum.getLeft? :=
    List.append_cancel_left (hpushes.symm.trans htold.pushes)
  refine ⟨q, _, told, hq, hpushes, htold.updates, rfl, htold.foreign, hsaid, ?_⟩
  intro hall hun
  rcases hlast hall with rfl | hun' | hmem
  · exact Or.inl hview
  · exact absurd hun' hun
  · exact Or.inr hmem

end Runs

/-! ## One parcel -/

/-- The sender has submitted the parcel, and the recipient opens its page and that of another. -/
def parcelOpened :
    List (Act WaybillOp WaybillInput (WaybillRequest × Time) ⊕ SocketAct String) :=
  [.inl (.env (parcelToAbuja, 100)), .inr (.connect "s1" none),
    .inr (.message "s1" .trackWaybill (.text "WB-1")),
    .inr (.message "s1" .trackWaybill (.text "WB-2"))]

/-- It is quoted, while a passenger comes and goes and the other parcel is paid for. -/
def parcelQuoted :
    List (Act WaybillOp WaybillInput (WaybillRequest × Time) ⊕ SocketAct String) :=
  [.inl (.spawn (.write (.sendQuote parcelQuote))), .inl (.run 0 waybillPlain),
    .inr (.connect "s2" none), .inl (.run 0 waybillPlain),
    .inr (.emit (.trackingUpdated "WB-2" .paid [])), .inr (.disconnect "s2"),
    .inl (.run 0 waybillPlain)]

def parcelTracking : System (Config WaybillDB WaybillProc × SocketServer listIo)
    (Act WaybillOp WaybillInput (WaybillRequest × Time) ⊕ SocketAct String) :=
  tracking listIo verifyDemo (fun _ => "WB-1") 1

theorem parcelOpened_runs :
    (parcelTracking.run (waybillStart, noSockets listIo) parcelOpened).isSome = true := by
  decide +kernel

def parcelWatched : Config WaybillDB WaybillProc × SocketServer listIo :=
  (parcelTracking.run (waybillStart, noSockets listIo) parcelOpened).get parcelOpened_runs

theorem parcelQuoted_runs : (parcelTracking.run parcelWatched parcelQuoted).isSome = true := by
  decide +kernel

def parcelTold : Config WaybillDB WaybillProc × SocketServer listIo :=
  (parcelTracking.run parcelWatched parcelQuoted).get parcelQuoted_runs

/-- The socket is sent the update of the other parcel, and then what the quote has changed. -/
theorem trackers_informed_quote : (updates "s1" parcelTold.2).length = 2 ∧
    parcelWatched.1.shared.view ≠ parcelTold.1.shared.view ∧
    ∃ q news, ∃ told : List Told, parcelTold.1.shared.view = some q ∧
      parcelTold.1.shared.pushes = parcelWatched.1.shared.pushes ++ news ∧
      updates "s1" parcelTold.2 = updates "s1" parcelWatched.2 ++ told.map Told.message ∧
      told.filterMap Sum.getLeft? = news ∧
      (∀ message, .inr message ∈ told → ∃ b, .inr b ∈ parcelQuoted ∧ Foreign "WB-1" b message) ∧
      (∀ p ∈ news, ∃ t ∈ (waybills 1).trace parcelWatched.1 (System.lefts parcelQuoted),
        t.shared.view = some p) ∧
      q ∈ news := by
  have hchanged : parcelWatched.1.shared.view ≠ parcelTold.1.shared.view := by decide +kernel
  have hrow : parcelWatched.1.shared.row = some (Waybills.create 1 parcelToAbuja) := by
    decide +kernel
  have hstay : ∀ b, .inr b ∈ parcelQuoted → ¬ Exits "s1" (.waybill "WB-1") b := by
    simp [parcelQuoted, Exits, Closes]
  obtain ⟨q, news, told, hq, hpushes, hupdates, hnews, hforeign, hsaid, hlast⟩ :=
    trackers_informed hrow (by decide +kernel) hstay (Option.some_get parcelQuoted_runs).symm
  refine ⟨by decide +kernel, hchanged, q, news, told, hq, hpushes, hupdates, hnews, hforeign,
    hsaid, ?_⟩
  rcases hlast (by decide +kernel) (by decide +kernel) with hsame | hmem
  · exact absurd (hsame.trans hq.symm) hchanged
  · exact hmem

end Realtime
end TransHub
