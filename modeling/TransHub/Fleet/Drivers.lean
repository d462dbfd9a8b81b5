import TransHub.Accounts.Schema
import TransHub.Shared.Errors

/-!
# The drivers of an operator

`drivers.repository`: the rows of `drivers` and the statements on them.

* `create`: refused when the id or the phone is taken.
* `update`, `deactivate`: an `updateMany` on the row of an operator, which leaves the id and the
  operator of every row alone (`Employs.of_edit`).
-/

namespace TransHub
namespace Fleet

open Accounts (PasswordHash)

/-- `CreateDriverInput`. -/
structure CreateDriverInput where
  fullName : String
  phone : String
  password : String
  licenseNo : Option String := none
  deriving DecidableEq, Repr

/-- `UpdateDriverInput`: each field may be left out. -/
structure UpdateDriverInput where
  fullName : Option String := none
  licenseNo : Option String := none
  isActive : Option Bool := none
  deriving DecidableEq, Repr

/-- `DriverDTO`: a row of `drivers` without its password. -/
structure DriverDTO where
  id : DriverId
  operatorId : OperatorId
  fullName : String
  phone : String
  licenseNo : Option String
  isActive : Bool := true
  deriving DecidableEq, Repr

/-- A row of `drivers`. -/
structure Driver extends DriverDTO where
  password : PasswordHash
  deriving DecidableEq, Repr

/-- `drivers_pkey` and `drivers_phone_key`. -/
def Driver.clash (a b : Driver) : Bool := a.id == b.id || a.phone == b.phone

namespace Driver

/-- The row of a new driver; `salt` goes into the hash of the password. -/
def ofInput (input : CreateDriverInput) (operatorId : OperatorId) (uuid : DriverId) (salt : ℕ) :
    Driver where
  id := uuid
  operatorId := operatorId
  fullName := input.fullName
  phone := input.phone
  licenseNo := input.licenseNo
  password := ⟨input.password, salt⟩

/-- The `data` of `update`: the given fields. -/
def patch (data : UpdateDriverInput) (d : Driver) : Driver :=
  { d with
    fullName := data.fullName.getD d.fullName
    licenseNo := data.licenseNo.or d.licenseNo
    isActive := data.isActive.getD d.isActive }

/-- The `data` of `deactivate`. -/
def retire (d : Driver) : Driver := { d with isActive := false }

/-- `{ id, operatorId }`. -/
def ownedBy (id : DriverId) (operatorId : OperatorId) (d : Driver) : Bool :=
  d.id == id && d.operatorId == operatorId

end Driver

namespace Drivers

variable {drivers : List Driver} {id : DriverId} {operatorId : OperatorId}

def findByPhone (phone : String) (drivers : List Driver) : Option Driver :=
  drivers.find? fun d => d.phone = phone

/-- `findById` for an operator. -/
def findById (id : DriverId) (operatorId : OperatorId) (drivers : List Driver) :
    Option DriverDTO :=
  (drivers.find? (Driver.ownedBy id operatorId)).map Driver.toDriverDTO

/-- `findUnique({ where: { id } })`. -/
def findUnique (id : DriverId) (drivers : List Driver) : Option DriverDTO :=
  (drivers.find? fun d => d.id = id).map Driver.toDriverDTO

/-- The row of a driver names this operator. -/
def Employs (operatorId : OperatorId) (id : DriverId) (drivers : List Driver) : Prop :=
  ∃ d ∈ drivers, d.id = id ∧ d.operatorId = operatorId

theorem employs_of_findById {dto : DriverDTO} (h : findById id operatorId drivers = some dto) :
    Employs operatorId id drivers := by
  obtain ⟨d, hd, -⟩ := Option.map_eq_some_iff.mp h
  have howned := List.find?_some hd
  rw [Driver.ownedBy, Bool.and_eq_true, beq_iff_eq, beq_iff_eq] at howned
  exact ⟨d, List.mem_of_find?_eq_some hd, howned⟩

/-- A driver stays with its operator when others are hired. -/
theorem Employs.snoc (h : Employs operatorId id drivers) (d : Driver) :
    Employs operatorId id (drivers ++ [d]) := by
  obtain ⟨e, he, hids⟩ := h
  exact ⟨e, List.mem_append_left _ he, hids⟩

/-- A driver stays with its operator when rows are edited. -/
theorem Employs.of_edit {p : Driver → Bool} {f : Driver → Driver}
    (hf : ∀ d, (f d).id = d.id ∧ (f d).operatorId = d.operatorId)
    (h : Employs operatorId id drivers) : Employs operatorId id (Table.updateMany p f drivers) := by
  obtain ⟨d, hd, hid, hop⟩ := h
  refine ⟨_, Table.mem_updateMany_of_mem hd, ?_, ?_⟩
  · split
    · rw [(hf d).1, hid]
    · exact hid
  · split
    · rw [(hf d).2, hop]
    · exact hop

end Drivers

end Fleet
end TransHub
