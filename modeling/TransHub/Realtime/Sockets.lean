import TransHub.Foundation.Rooms
import TransHub.Foundation.Since
import TransHub.Foundation.System
import TransHub.Ledger.Schema
import TransHub.Waybills.Schema

/-!
# The Socket.io server

`initSocketServer`: the handshake, what a client may ask for, and the bridge from the event bus
to the rooms.  Names of rooms are strings, made from whatever a client has sent; a socket is
besides in a room of its own, whose name is its id.

* `SocketIo`: the package, as far as the server relies on it.
* `SocketAct`, `SocketServer.step`: connections, messages of clients, events of the bus.
* `Room`, `Room.name`: the rooms that the bridge serves; their names do not clash.
* `Enters`, `Exits`: what puts a socket in a room and what takes it out; `in_step` says that
  nothing else does, and `in_iff_since` reads it over a run.
* `inbox_exact`: what a socket has been sent.
-/

namespace TransHub
namespace Realtime

/-! ## Sockets and messages -/

/-- `socket.data.user`, of a verified token. -/
structure SocketUser where
  role : Role
  operatorId : Option String := none
  deriving DecidableEq, Repr

/-- What a client sends: `typeof` tells a string from everything else. -/
inductive ClientValue where
  | text (s : String)
  | other
  deriving DecidableEq, Repr

/-- The events of clients that have a listener. -/
inductive ClientEvent where
  | tripSubscribe
  | tripUnsubscribe
  | trackWaybill
  | untrackWaybill
  deriving DecidableEq, Repr

/-- The events of the bus that are bridged to rooms. -/
inductive BusEvent where
  | capacityChanged (tripId : String) (isFull : Bool) (offlineCount : ℕ)
  | bookingCreated (operatorId bookingId tripId : String)
  | trackingUpdated (waybillNo : String) (status : WaybillStatus) (events : List WaybillEvent)
  deriving DecidableEq

/-- What the server sends to clients. -/
inductive SocketMessage where
  | capacityChanged (tripId : String) (isFull : Bool) (offlineCount : ℕ)
  | bookingCreated (bookingId tripId : String)
  | waybillUpdate (status : WaybillStatus) (events : List WaybillEvent)
  deriving DecidableEq

/-- What reaches the server.  A handshake may come without a token. -/
inductive SocketAct (Token : Type) where
  | connect (id : String) (token : Option Token)
  | message (id : String) (event : ClientEvent) (value : ClientValue)
  | disconnect (id : String)
  | emit (e : BusEvent)
  | disconnectAllSockets
  deriving DecidableEq

/-! ## Rooms -/

def operatorRoom (operatorId : String) : String := "operator:" ++ operatorId

def tripRoom (tripId : String) : String := "trip:" ++ tripId

def waybillRoom (waybillNo : String) : String := "waybill:" ++ waybillNo

/-- The room that a socket joins when it connects, besides its own. -/
def feedRoom (user : Option SocketUser) : Option String :=
  match user with
  | some user =>
      if user.role = .operator then
        (user.operatorId.filter fun operatorId => operatorId ≠ "").map operatorRoom
      else none
  | none => none

namespace BusEvent

/-- The room that an event is bridged to. -/
def room : BusEvent → String
  | capacityChanged tripId _ _ => tripRoom tripId
  | bookingCreated operatorId _ _ => operatorRoom operatorId
  | trackingUpdated waybillNo _ _ => waybillRoom waybillNo

/-- What is sent there. -/
def message : BusEvent → SocketMessage
  | capacityChanged tripId isFull offlineCount => .capacityChanged tripId isFull offlineCount
  | bookingCreated _ bookingId tripId => .bookingCreated bookingId tripId
  | trackingUpdated _ status events => .waybillUpdate status events

end BusEvent

/-! ## The server -/

/-- The package `socket.io`: its rooms, and the ids that it gives to sockets, which are made of
letters, digits, dashes and underscores. -/
structure SocketIo where
  adapter : Rooms String String
  isId : String → Bool
  not_colon : ∀ id, isId id = true → ':' ∉ id.toList

/-- The sockets that are connected, the rooms they are in, and, as a history, what has been
sent to whom. -/
structure SocketServer (io : SocketIo) where
  sockets : List (String × Option SocketUser)
  rooms : io.adapter.State
  sent : List (String × SocketMessage)

namespace SocketServer

variable {io : SocketIo} {Token : Type} (verifyAccessToken : Token → Option SocketUser)

def connected (s : SocketServer io) (id : String) : Bool := s.sockets.any fun k => k.1 == id

/-- What the listeners of a socket do with a message. -/
def listen (io : SocketIo) (rooms : io.adapter.State) (id : String) :
    ClientEvent → ClientValue → io.adapter.State
  | .tripSubscribe, .text tripId =>
      if tripId ≠ "" then io.adapter.join rooms id (tripRoom tripId) else rooms
  | .tripUnsubscribe, .text tripId => io.adapter.leave rooms id (tripRoom tripId)
  | .trackWaybill, .text waybillNo =>
      if waybillNo ≠ "" then io.adapter.join rooms id (waybillRoom waybillNo) else rooms
  | .untrackWaybill, .text waybillNo => io.adapter.leave rooms id (waybillRoom waybillNo)
  | _, .other => rooms

/-- The rooms after a connection. -/
def welcome (io : SocketIo) (rooms : io.adapter.State) (id : String) (user : Option SocketUser) :
    io.adapter.State :=
  let own := io.adapter.join rooms id id
  match feedRoom user with
  | some room => io.adapter.join own id room
  | none => own

/-- A token that is missing or does not verify leaves the socket anonymous.  A new socket has an
id that no other has. -/
def step (s : SocketServer io) : SocketAct Token → Option (SocketServer io)
  | .connect id token =>
      if s.connected id || !io.isId id then none
      else
        let user := token.bind verifyAccessToken
        some { s with sockets := (id, user) :: s.sockets, rooms := welcome io s.rooms id user }
  | .message id event value =>
      if s.connected id then some { s with rooms := listen io s.rooms id event value } else none
  | .disconnect id =>
      if s.connected id then
        some { s with
          sockets := s.sockets.filter fun k => k.1 ≠ id
          rooms := io.adapter.drop s.rooms id }
      else none
  | .emit e => some { s with sent := s.sent ++ io.adapter.broadcast s.rooms e.room e.message }
  | .disconnectAllSockets => some { s with sockets := [], rooms := io.adapter.empty }

end SocketServer

/-- The server before anybody has connected. -/
def noSockets (io : SocketIo) : SocketServer io := ⟨[], io.adapter.empty, []⟩

/-- Runs of the server. -/
def sockets (io : SocketIo) {Token : Type} (verifyAccessToken : Token → Option SocketUser) :
    System (SocketServer io) (SocketAct Token) where
  init s := s = noSockets io
  step := SocketServer.step verifyAccessToken

/-! ## The rooms that the bridge serves -/

/-- A room of the bridge. -/
inductive Room where
  | operator (operatorId : String)
  | trip (tripId : String)
  | waybill (waybillNo : String)
  deriving DecidableEq, Repr

namespace Room

def name : Room → String
  | operator operatorId => operatorRoom operatorId
  | trip tripId => tripRoom tripId
  | waybill waybillNo => waybillRoom waybillNo

theorem toList_name (room : Room) : ':' ∈ room.name.toList := by
  cases room with
  | operator operatorId =>
    show ':' ∈ ("operator:" ++ operatorId).toList
    rw [String.toList_append]
    exact List.mem_append_left _ (by decide)
  | trip tripId =>
    show ':' ∈ ("trip:" ++ tripId).toList
    rw [String.toList_append]
    exact List.mem_append_left _ (by decide)
  | waybill waybillNo =>
    show ':' ∈ ("waybill:" ++ waybillNo).toList
    rw [String.toList_append]
    exact List.mem_append_left _ (by decide)

/-- What follows one and the same beginning. -/
theorem append_cancel {p a b : String} (h : p ++ a = p ++ b) : a = b := by
  have hlist := congrArg String.toList h
  rw [String.toList_append, String.toList_append] at hlist
  exact String.toList_inj.mp (List.append_cancel_left hlist)

/-- Beginnings that differ in their first letter. -/
theorem append_ne {p q : String} (hp : p.toList.head? ≠ none)
    (hpq : p.toList.head? ≠ q.toList.head?) (hq : q.toList.head? ≠ none) (a b : String) :
    p ++ a ≠ q ++ b := by
  intro h
  have hlist := congrArg (fun s => (String.toList s).head?) h
  simp only [String.toList_append, List.head?_append] at hlist
  cases hp' : p.toList.head? with
  | none => exact hp hp'
  | some x =>
    cases hq' : q.toList.head? with
    | none => exact hq hq'
    | some y =>
      rw [hp', hq'] at hlist hpq
      exact hpq hlist

/-- **Different rooms have different names**, whatever clients make them from. -/
theorem name_injective : Function.Injective name := by
  intro a b h
  cases a <;> cases b
  case operator.operator a b => rw [append_cancel h]
  case trip.trip a b => rw [append_cancel h]
  case waybill.waybill a b => rw [append_cancel h]
  all_goals exact absurd h (append_ne (by decide) (by decide) (by decide) _ _)

theorem name_eq_trip {room : Room} {tripId : String} :
    room.name = tripRoom tripId ↔ room = .trip tripId :=
  name_injective.eq_iff (b := .trip tripId)

theorem name_eq_waybill {room : Room} {waybillNo : String} :
    room.name = waybillRoom waybillNo ↔ room = .waybill waybillNo :=
  name_injective.eq_iff (b := .waybill waybillNo)

end Room

/-! ## What puts a socket in a room -/

variable {io : SocketIo} {Token : Type} {verifyAccessToken : Token → Option SocketUser}

/-- The act puts the socket in the room: the feed of an operator with its verified token, the
rooms of trips and waybills by asking for them. -/
def Enters (verifyAccessToken : Token → Option SocketUser) (id : String) :
    Room → SocketAct Token → Prop
  | .operator operatorId, a => ∃ token user, a = .connect id (some token) ∧
      verifyAccessToken token = some user ∧ user.role = .operator ∧
      user.operatorId = some operatorId ∧ operatorId ≠ ""
  | .trip tripId, a => a = .message id .tripSubscribe (.text tripId) ∧ tripId ≠ ""
  | .waybill waybillNo, a => a = .message id .trackWaybill (.text waybillNo) ∧ waybillNo ≠ ""

/-- The socket is closed, by either side. -/
def Closes (id : String) (a : SocketAct Token) : Prop :=
  a = .disconnect id ∨ a = .disconnectAllSockets

/-- The act takes the socket out of the room. -/
def Exits (id : String) : Room → SocketAct Token → Prop
  | .operator _, a => Closes id a
  | .trip tripId, a => Closes id a ∨ a = .message id .tripUnsubscribe (.text tripId)
  | .waybill waybillNo, a => Closes id a ∨ a = .message id .untrackWaybill (.text waybillNo)

/-- The room of an event, as one that the bridge serves. -/
def BusEvent.place : BusEvent → Room
  | capacityChanged tripId _ _ => .trip tripId
  | bookingCreated operatorId _ _ => .operator operatorId
  | trackingUpdated waybillNo _ _ => .waybill waybillNo

theorem BusEvent.name_place (e : BusEvent) : e.place.name = e.room := by
  cases e <;> rfl

section Step

variable {s s' : SocketServer io} {rooms : io.adapter.State} {id id' : String} {room : Room}

theorem feedRoom_eq_some {user : Option SocketUser} {r : String} :
    feedRoom user = some r ↔ ∃ u operatorId, user = some u ∧ u.role = .operator ∧
      u.operatorId = some operatorId ∧ operatorId ≠ "" ∧ r = operatorRoom operatorId := by
  constructor
  · intro h
    cases user with
    | none => exact absurd h (by simp [feedRoom])
    | some u =>
      simp only [feedRoom] at h
      split at h
      · next hrole =>
        obtain ⟨operatorId, hmem, rfl⟩ := Option.map_eq_some_iff.mp h
        obtain ⟨hop, hne⟩ := Option.filter_eq_some_iff.mp hmem
        exact ⟨u, operatorId, rfl, hrole, hop, of_decide_eq_true hne, rfl⟩
      · exact absurd h (by simp)
  · rintro ⟨u, operatorId, rfl, hrole, hop, hne, rfl⟩
    simp [feedRoom, hrole, hop, hne]

theorem enters_connect {token : Option Token} :
    Enters verifyAccessToken id room (.connect id' token) ↔
      id = id' ∧ feedRoom (token.bind verifyAccessToken) = some room.name := by
  rw [feedRoom_eq_some]
  constructor
  · cases room with
    | operator operatorId =>
      rintro ⟨t, user, heq, hverify, hrole, hop, hne⟩
      obtain ⟨rfl, rfl⟩ : id' = id ∧ token = some t := by simpa using heq
      exact ⟨rfl, user, operatorId, hverify, hrole, hop, hne, rfl⟩
    | trip tripId => exact fun h => absurd h.1 (by simp)
    | waybill waybillNo => exact fun h => absurd h.1 (by simp)
  · rintro ⟨rfl, user, operatorId, hbind, hrole, hop, hne, hname⟩
    obtain ⟨t, rfl, hverify⟩ := Option.bind_eq_some_iff.mp hbind
    obtain rfl : room = .operator operatorId := Room.name_injective hname
    exact ⟨t, user, rfl, hverify, hrole, hop, hne⟩

/-- A connection: the room of the socket itself is none of the bridge's. -/
theorem in_welcome {user : Option SocketUser} (hid : ':' ∉ id'.toList) :
    io.adapter.In (SocketServer.welcome io rooms id' user) id room.name ↔
      id = id' ∧ feedRoom user = some room.name ∨ io.adapter.In rooms id room.name := by
  have hown : room.name ≠ id' := by
    intro h
    exact hid (h ▸ room.toList_name)
  cases hfeed : feedRoom user with
  | none => simp [SocketServer.welcome, hfeed, hown]
  | some r => simp [SocketServer.welcome, hfeed, hown, eq_comm]

/-- A message of a client. -/
theorem in_listen {event : ClientEvent} {value : ClientValue} :
    io.adapter.In (SocketServer.listen io rooms id' event value) id room.name ↔
      Enters verifyAccessToken id room (.message id' event value) ∨
        io.adapter.In rooms id room.name ∧
          ¬ Exits id room (.message id' event value : SocketAct Token) := by
  cases value with
  | other => cases event <;> cases room <;> simp [SocketServer.listen, Enters, Exits, Closes]
  | text v =>
    cases event with
    | tripSubscribe =>
      by_cases hv : v = ""
      · subst hv
        cases room <;> simp +contextual [SocketServer.listen, Enters, Exits, Closes]
      · simp only [SocketServer.listen, ne_eq, hv, not_false_eq_true, if_true, Rooms.in_join,
          Room.name_eq_trip]
        cases room <;> grind [Enters, Exits, Closes]
    | tripUnsubscribe =>
      simp only [SocketServer.listen, Rooms.in_leave, Room.name_eq_trip]
      cases room <;> grind [Enters, Exits, Closes]
    | trackWaybill =>
      by_cases hv : v = ""
      · subst hv
        cases room <;> simp +contextual [SocketServer.listen, Enters, Exits, Closes]
      · simp only [SocketServer.listen, ne_eq, hv, not_false_eq_true, if_true, Rooms.in_join,
          Room.name_eq_waybill]
        cases room <;> grind [Enters, Exits, Closes]
    | untrackWaybill =>
      simp only [SocketServer.listen, Rooms.in_leave, Room.name_eq_waybill]
      cases room <;> grind [Enters, Exits, Closes]

theorem not_exits_connect {token : Option Token} :
    ¬ Exits id room (SocketAct.connect id' token) := by
  cases room <;> simp [Exits, Closes]

/-- **What a step does to the rooms.** -/
theorem in_step {a : SocketAct Token} (h : (sockets io verifyAccessToken).step s a = some s')
    (id : String) (room : Room) :
    io.adapter.In s'.rooms id room.name ↔ Enters verifyAccessToken id room a ∨
      io.adapter.In s.rooms id room.name ∧ ¬ Exits id room a := by
  cases a with
  | connect id' token =>
    simp only [sockets, SocketServer.step] at h
    split at h
    · exact absurd h (by simp)
    · next hid =>
      obtain rfl := Option.some.inj h
      have hcolon : ':' ∉ id'.toList := by
        refine io.not_colon id' ?_
        by_contra hnot
        exact hid (by simp [hnot])
      rw [in_welcome hcolon, enters_connect]
      exact or_congr_right (and_iff_left not_exits_connect).symm
  | message id' event value =>
    simp only [sockets, SocketServer.step] at h
    split at h
    · obtain rfl := Option.some.inj h
      exact in_listen
    · exact absurd h (by simp)
  | disconnect id' =>
    simp only [sockets, SocketServer.step] at h
    split at h
    · obtain rfl := Option.some.inj h
      show io.adapter.In (io.adapter.drop s.rooms id') id room.name ↔ _
      rw [Rooms.in_drop]
      cases room <;> simp [Enters, Exits, Closes, eq_comm]
    · exact absurd h (by simp)
  | emit e =>
    obtain rfl := Option.some.inj h
    show io.adapter.In s.rooms id room.name ↔ _
    cases room <;> simp [Enters, Exits, Closes]
  | disconnectAllSockets =>
    obtain rfl := Option.some.inj h
    show io.adapter.In io.adapter.empty id room.name ↔ _
    cases room <;> simp [Enters, Exits, Closes]

/-- What an act sends to a socket. -/
def reaches (s : SocketServer io) (id : String) : SocketAct Token → List SocketMessage
  | .emit e => if io.adapter.In s.rooms id e.place.name then [e.message] else []
  | _ => []

theorem inbox_step {a : SocketAct Token} (h : (sockets io verifyAccessToken).step s a = some s')
    (id : String) : Rooms.inbox id s'.sent = Rooms.inbox id s.sent ++ reaches s id a := by
  unfold reaches
  cases a with
  | emit e =>
    obtain rfl := Option.some.inj h
    show Rooms.inbox id (s.sent ++ io.adapter.broadcast s.rooms e.room e.message) = _
    rw [Rooms.inbox_append, Rooms.inbox_broadcast]
    dsimp only
    rw [e.name_place]
  | connect id' token =>
    simp only [sockets, SocketServer.step] at h
    split at h
    · exact absurd h (by simp)
    · obtain rfl := Option.some.inj h
      rw [List.append_nil]
  | message id' event value =>
    simp only [sockets, SocketServer.step] at h
    split at h
    · obtain rfl := Option.some.inj h
      rw [List.append_nil]
    · exact absurd h (by simp)
  | disconnect id' =>
    simp only [sockets, SocketServer.step] at h
    split at h
    · obtain rfl := Option.some.inj h
      rw [List.append_nil]
    · exact absurd h (by simp)
  | disconnectAllSockets =>
    obtain rfl := Option.some.inj h
    rw [List.append_nil]

end Step

/-! ## Runs -/

section Runs

variable {s : SocketServer io} {acts : List (SocketAct Token)}

/-- **Who is in a room**, after a run: a socket that has entered it and not left since. -/
theorem in_iff_since (h : (sockets io verifyAccessToken).run (noSockets io) acts = some s)
    (id : String) (room : Room) : io.adapter.In s.rooms id room.name ↔
      Since (Enters verifyAccessToken id room) (Exits id room) acts := by
  refine System.run_rule (P := fun acts s => io.adapter.In s.rooms id room.name ↔
    Since (Enters verifyAccessToken id room) (Exits id room) acts) h ?_ ?_
  · exact iff_of_false Rooms.not_in_empty not_since_nil
  · intro acts r a r' _ ih hs
    rw [in_step hs id room, since_snoc, ih]

open Classical in
/-- What an act sends to a socket, after the acts of the past. -/
noncomputable def hears (verifyAccessToken : Token → Option SocketUser) (id : String)
    (past : List (SocketAct Token)) : SocketAct Token → List SocketMessage
  | .emit e =>
      if Since (Enters verifyAccessToken id e.place) (Exits id e.place) past then [e.message]
      else []
  | _ => []

/-- **What a socket has been sent.**  Each event of the bus once, in order, if at that moment the
socket had entered its room and not left since: the bookings of an operator only with a token
that verifies as one of his, trips and waybills as it last asked. -/
theorem inbox_exact (h : (sockets io verifyAccessToken).run (noSockets io) acts = some s)
    (id : String) : Rooms.inbox id s.sent = gather (hears verifyAccessToken id) acts := by
  refine System.run_rule (P := fun acts s =>
    Rooms.inbox id s.sent = gather (hears verifyAccessToken id) acts) h ?_ ?_
  · rfl
  · intro acts r a r' hr ih hs
    rw [inbox_step hs id, gather_snoc, ih]
    congr 1
    cases a with
    | emit e =>
      unfold reaches hears
      dsimp only
      by_cases hin : io.adapter.In r.rooms id e.place.name
      · rw [if_pos hin, if_pos ((in_iff_since hr id e.place).mp hin)]
      · rw [if_neg hin, if_neg fun h => hin ((in_iff_since hr id e.place).mpr h)]
    | _ => rfl

end Runs

/-- A package that keeps lists, and knows ids by their not having a colon. -/
def listIo : SocketIo where
  adapter := .ofLists
  isId id := !id.toList.contains ':'
  not_colon id h hmem := by simp [hmem] at h

/-- Only this token verifies. -/
def verifyDemo (token : String) : Option SocketUser :=
  if token = "signed" then some ⟨.operator, some "op-1"⟩ else none

/-- An operator connects and, with a token of nobody's, a passenger, who asks for a trip under
the name of the operator's feed. -/
def feedActs : List (SocketAct String) :=
  [.connect "s1" (some "signed"), .connect "s2" (some "forged"),
    .message "s2" .tripSubscribe (.text "operator:op-1"), .message "s2" .tripSubscribe .other,
    .message "s2" .tripSubscribe (.text "t-9"), .emit (.bookingCreated "op-1" "b-7" "t-9"),
    .emit (.capacityChanged "t-9" true 3), .message "s2" .tripUnsubscribe (.text "t-9"),
    .emit (.capacityChanged "t-9" false 3)]

theorem feedActs_runs :
    ((sockets listIo verifyDemo).run (noSockets listIo) feedActs).isSome = true := by
  decide +kernel

def feedEnd : SocketServer listIo :=
  ((sockets listIo verifyDemo).run (noSockets listIo) feedActs).get feedActs_runs

theorem inbox_exact_feed :
    Rooms.inbox "s2" feedEnd.sent = [.capacityChanged "t-9" true 3] ∧
      Rooms.inbox "s2" feedEnd.sent = gather (hears verifyDemo "s2") feedActs :=
  ⟨by decide +kernel, inbox_exact (Option.some_get _).symm "s2"⟩

end Realtime
end TransHub
