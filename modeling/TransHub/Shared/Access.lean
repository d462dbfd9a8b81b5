import TransHub.Ledger.Schema

/-!
# Who asks

What `authenticate` attaches to a request, and the route guard `requireRole`.
-/

namespace TransHub

def Role.text : Role → String
  | passenger => "passenger"
  | operator => "operator"
  | admin => "admin"
  | driver => "driver"

/-- `req.user`.  A token names an operator for operator accounts only. -/
structure AuthUser where
  id : UserId
  role : Role
  operatorId : Option OperatorId := none
  deriving DecidableEq, Repr

/-- `requireRole(...roles)` on an authenticated request. -/
def requireRole (roles : List Role) (user : AuthUser) : Except Thrown Unit :=
  ensure (roles.contains user.role) (.app (.forbiddenError
    ("Requires role: " ++ String.intercalate " or " (roles.map Role.text))))

theorem requireRole_eq_ok {roles : List Role} {user : AuthUser} {x : Unit} :
    requireRole roles user = .ok x ↔ user.role ∈ roles := by
  rw [requireRole, ensure_eq_ok, List.contains_iff_mem]

/-- A role outside the list is refused. -/
theorem requireRole_of_notMem {roles : List Role} {user : AuthUser} (h : user.role ∉ roles) :
    ∃ e, requireRole roles user = .error e := by
  have hfalse : roles.contains user.role = false := by
    rw [Bool.eq_false_iff]
    exact fun hmem => h (List.contains_iff_mem.mp hmem)
  exact ⟨_, ensure_eq_error.mpr ⟨hfalse, rfl⟩⟩

end TransHub
