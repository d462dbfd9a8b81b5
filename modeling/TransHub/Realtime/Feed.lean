import TransHub.Foundation.Linked
import TransHub.Identity.Authority
import TransHub.Realtime.Sockets

/-!
# The booking feed of an operator

The sockets, linked to the calls that sign tokens.  A handshake may carry any token that has
been signed so far, whenever that was; every other one, and one that has expired, is refused by
`verifyAccessToken`.

* `Handshake`, `accounts`: the two systems, linked.
* `feed_authorised`: who is told of the bookings of an operator.
-/

namespace TransHub
namespace Realtime

open Accounts Fleet Identity

variable {io : SocketIo} {verify : Verify}
  {hashResetToken : RawToken → TokenHash} {text : OperatorId → String}

/-- A token as `verifyAccessToken` sees it. -/
inductive Handshake where
  | valid (claims : Claims)
  | refused
  deriving DecidableEq

/-- `verifyAccessToken`, read as `socket.data.user`; `text` is how an id is written. -/
def verifyHandshake (text : OperatorId → String) : Handshake → Option SocketUser
  | .valid claims => some ⟨claims.role, claims.operatorId.map text⟩
  | .refused => none

/-- A valid token has been signed. -/
def accountLink : Link (Config IdentityDB IdentityCall) (SocketAct Handshake) where
  feeds _ _ := []
  allows c
    | .connect _ (some (.valid claims)) => c.shared.signed.contains claims
    | _ => true

/-- Runs of the calls of the services and of the sockets. -/
def accounts (io : SocketIo) (verify : Verify) (hashResetToken : RawToken → TokenHash)
    (text : OperatorId → String) :
    System (Config IdentityDB IdentityCall × SocketServer io)
      (Act IdentityOp IdentityInput Empty ⊕ SocketAct Handshake) :=
  (identity verify hashResetToken).link (sockets io (verifyHandshake text)) accountLink

/-- The socket has connected with a token of an account of the operator, and the account is still
one. -/
def Admitted (text : OperatorId → String) (id operatorId : String)
    (acts : List (Act IdentityOp IdentityInput Empty ⊕ SocketAct Handshake))
    (r : IdentityDB) : Prop :=
  ∃ claims, .inr (.connect id (some (.valid claims))) ∈ acts ∧
    ∃ u ∈ r.users, u.id = claims.id ∧ u.role = .operator ∧
      u.operatorId.map text = some operatorId

section Steps

variable {id operatorId : String}
  {acts acts' : List (Act IdentityOp IdentityInput Empty ⊕ SocketAct Handshake)}
  {r r' : IdentityDB} {c : Config IdentityDB IdentityCall}

theorem Admitted.succeeds (h : Admitted text id operatorId acts r) (hs : Succeeds r r') :
    Admitted text id operatorId acts r' := by
  obtain ⟨claims, hmem, u, hu, hid, hrole, hop⟩ := h
  obtain ⟨u', hu', hid', hrole', hop'⟩ := hs.users u hu
  exact ⟨claims, hmem, u', hu', hid'.trans hid, hrole'.trans hrole, by rw [hop']; exact hop⟩

theorem Admitted.mono (h : Admitted text id operatorId acts r) (hsub : acts ⊆ acts') :
    Admitted text id operatorId acts' r := by
  obtain ⟨claims, hmem, hu⟩ := h
  exact ⟨claims, hsub hmem, hu⟩

/-- Who enters the feed of an operator presents a token of an account of his. -/
theorem admitted_of_enters (hc : (identity verify hashResetToken).Reachable c)
    {b : SocketAct Handshake} (hallows : accountLink.allows c b = true) (hmem : .inr b ∈ acts)
    (h : Enters (verifyHandshake text) id (.operator operatorId) b) :
    Admitted text id operatorId acts c.shared := by
  obtain ⟨token, user, rfl, hverify, hrole, hop, -⟩ := h
  cases token with
  | refused => exact absurd hverify (by simp [verifyHandshake])
  | valid claims =>
    obtain rfl := Option.some.inj hverify
    have hsigned : claims ∈ c.shared.signed := List.contains_iff_mem.mp hallows
    rcases signed_stands hc hsigned with ⟨u, hu, hid, hurole, huop⟩ | ⟨hdriver, -⟩
    · refine ⟨claims, hmem, u, hu, hid, hurole.trans hrole, ?_⟩
      rw [huop]
      exact hop
    · exact absurd (hdriver.symm.trans hrole) (by decide)

/-- What a booking message was sent for. -/
def Announced (text : OperatorId → String) (id bookingId tripId : String)
    (acts : List (Act IdentityOp IdentityInput Empty ⊕ SocketAct Handshake))
    (r : IdentityDB) : Prop :=
  ∃ operatorId, .inr (.emit (.bookingCreated operatorId bookingId tripId)) ∈ acts ∧
    Admitted text id operatorId acts r

/-- What a run keeps: the feed of an operator is of his accounts, and so is what it has sent. -/
structure FeedInv (text : OperatorId → String) (verify : Verify)
    (hashResetToken : RawToken → TokenHash)
    (acts : List (Act IdentityOp IdentityInput Empty ⊕ SocketAct Handshake))
    (p : Config IdentityDB IdentityCall × SocketServer io) : Prop where
  reachable : (identity verify hashResetToken).Reachable p.1
  admitted : ∀ id operatorId, io.adapter.In p.2.rooms id (operatorRoom operatorId) →
    Admitted text id operatorId acts p.1.shared
  announced : ∀ id bookingId tripId,
    SocketMessage.bookingCreated bookingId tripId ∈ Rooms.inbox id p.2.sent →
    Announced text id bookingId tripId acts p.1.shared

variable {p q : Config IdentityDB IdentityCall × SocketServer io}

/-- A step of the services. -/
theorem FeedInv.calls (h : FeedInv text verify hashResetToken acts p) (hsub : acts ⊆ acts')
    {b : Act IdentityOp IdentityInput Empty}
    (hs : (identity verify hashResetToken).step p.1 b = some q.1) (hsame : q.2 = p.2) :
    FeedInv text verify hashResetToken acts' q := by
  have hsucc : Succeeds p.1.shared q.1.shared := identity_succeeds h.reachable (.of_step hs)
  refine ⟨h.reachable.step hs, ?_, ?_⟩
  · intro id operatorId hin
    rw [hsame] at hin
    exact ((h.admitted id operatorId hin).succeeds hsucc).mono hsub
  · intro id bookingId tripId hmem
    rw [hsame] at hmem
    obtain ⟨operatorId, hemit, hadm⟩ := h.announced id bookingId tripId hmem
    exact ⟨operatorId, hsub hemit, (hadm.succeeds hsucc).mono hsub⟩

/-- A step at the sockets. -/
theorem FeedInv.sockets (h : FeedInv text verify hashResetToken acts p) {b : SocketAct Handshake}
    (hallows : accountLink.allows p.1 b = true)
    (hs : (Realtime.sockets io (verifyHandshake text)).step p.2 b = some q.2) (hsame : q.1 = p.1) :
    FeedInv text verify hashResetToken (acts ++ [.inr b]) q := by
  have hsub : acts ⊆ acts ++ [.inr b] := List.subset_append_left _ _
  have hlast : (.inr b : Act IdentityOp IdentityInput Empty ⊕ _) ∈ acts ++ [.inr b] :=
    List.mem_append_right _ (List.mem_singleton_self _)
  refine ⟨by rw [hsame]; exact h.reachable, ?_, ?_⟩
  · intro id operatorId hin
    rw [hsame]
    rcases (in_step hs id (.operator operatorId)).mp hin with hentered | ⟨hin, -⟩
    · exact admitted_of_enters h.reachable hallows hlast hentered
    · exact (h.admitted id operatorId hin).mono hsub
  · intro id bookingId tripId hmem
    rw [hsame]
    rw [inbox_step hs id, List.mem_append] at hmem
    rcases hmem with hmem | hmem
    · obtain ⟨operatorId, hemit, hadm⟩ := h.announced id bookingId tripId hmem
      exact ⟨operatorId, hsub hemit, hadm.mono hsub⟩
    · -- The message is of this event, and the socket in its room.
      unfold reaches at hmem
      split at hmem
      · next e =>
        split at hmem
        · next hin =>
          rw [List.mem_singleton] at hmem
          cases e with
          | bookingCreated operatorId b t =>
            cases hmem
            exact ⟨operatorId, hlast, (h.admitted id operatorId hin).mono hsub⟩
          | _ => exact absurd hmem (by simp [BusEvent.message])
        · exact absurd hmem List.not_mem_nil
      · exact absurd hmem List.not_mem_nil

end Steps

/-- **Only the operator's accounts hear of his bookings.**  Whatever clients present and ask for,
a booking message that a socket has received was emitted for an operator, and the socket had
connected with a token of an account that is one of that operator's. -/
theorem feed_authorised {p₀ p : Config IdentityDB IdentityCall × SocketServer io}
    {acts : List (Act IdentityOp IdentityInput Empty ⊕ SocketAct Handshake)}
    (h₀ : (accounts io verify hashResetToken text).init p₀)
    (hrun : (accounts io verify hashResetToken text).run p₀ acts = some p)
    {id bookingId tripId : String}
    (hmem : .bookingCreated bookingId tripId ∈ Rooms.inbox id p.2.sent) :
    ∃ operatorId, .inr (.emit (.bookingCreated operatorId bookingId tripId)) ∈ acts ∧
      Admitted text id operatorId acts p.1.shared := by
  have hinv : FeedInv text verify hashResetToken acts p := by
    refine System.run_rule (P := FeedInv text verify hashResetToken) hrun ?_ ?_
    · obtain ⟨hc, hs⟩ := h₀
      refine ⟨.of_init hc, ?_, ?_⟩
      · intro id operatorId hin
        rw [show p₀.2 = noSockets io from hs] at hin
        exact absurd hin Rooms.not_in_empty
      · intro id bookingId tripId hmem
        rw [show p₀.2 = noSockets io from hs] at hmem
        exact absurd hmem List.not_mem_nil
    · intro acts r a r' _ ih hs
      rcases System.link_cases hs with ⟨b, rfl, hb, hfed⟩ | ⟨b, rfl, hallows, hb, hsame⟩
      · exact ih.calls (List.subset_append_left _ _) hb (Option.some.inj hfed).symm
      · exact ih.sockets hallows hb hsame
  exact hinv.announced id bookingId tripId hmem

/-! ## One company -/

/-- The contact of a company opens the dashboard.  Another client, whose token is refused, asks
for a trip by the id of the company. -/
def feedSockets : List (SocketAct Handshake) :=
  [.connect "s1" (some (.valid bola)), .connect "s2" (some .refused),
    .message "s2" .tripSubscribe (.text "op-3"), .emit (.bookingCreated "op-3" "b-7" "t-9")]

def feedRun : List (Act IdentityOp IdentityInput Empty ⊕ SocketAct Handshake) :=
  (swiftJoins (fun o => .work (.onboard o)) .login fun n => ⟨Fleet.plain n, 55⟩).map .inl ++
    feedSockets.map .inr

def feedText (operatorId : OperatorId) : String := if operatorId = 3 then "op-3" else "op"

def feedSystem : System (Config IdentityDB IdentityCall × SocketServer listIo)
    (Act IdentityOp IdentityInput Empty ⊕ SocketAct Handshake) :=
  accounts listIo verifyPlain id feedText

theorem feedRun_runs :
    (feedSystem.run (identityInit, noSockets listIo) feedRun).isSome = true := by
  decide +kernel

def feedLast : Config IdentityDB IdentityCall × SocketServer listIo :=
  (feedSystem.run (identityInit, noSockets listIo) feedRun).get feedRun_runs

theorem feedInit : feedSystem.init (identityInit, noSockets listIo) :=
  ⟨identityInit_init, rfl⟩

theorem feed_authorised_run : Rooms.inbox "s2" feedLast.2.sent = [] ∧
    ∃ operatorId, .inr (.emit (.bookingCreated operatorId "b-7" "t-9")) ∈ feedRun ∧
      Admitted feedText "s1" operatorId feedRun feedLast.1.shared :=
  ⟨by decide +kernel, feed_authorised feedInit (Option.some_get feedRun_runs).symm
    (by decide +kernel)⟩

end Realtime
end TransHub
