import TransHub.Trips.Search

/-!
# The trips of a driver

`listByDriver` of `trips.service` and `trips.repository`: the trips of a driver that depart in a
window, which begins four hours ago and ends with the day.

* `HostZone`, `HostZone.setHours`: the calendar of the server, as `Date` has it.
* `driverWindow`, `listByDriver`: the window and the statement.
* `watDayEnd`: where the day in WAT ends that an instant lies in; `eq_watDayEnd` reads it against
  `watDayBounds`.
* `listByDriver_iff`: when the window ends with that day.
-/

namespace TransHub
namespace Trips

/-! ## The clock of the server -/

/-- The time zone of a server: its offset from UTC at an instant, and the offset that it takes a
local time to have. -/
structure HostZone where
  offset : ℤ → ℤ
  localOffset : ℤ → ℤ

namespace HostZone

/-- A zone of one offset. -/
def fixed (offset : ℤ) : HostZone := ⟨fun _ => offset, fun _ => offset⟩

/-- The days of the local calendar since the epoch. -/
def day (zone : HostZone) (instant : ℤ) : ℤ := (instant + zone.offset instant) / 86400000

/-- The instant at a time of a day of the local calendar. -/
def ofLocal (zone : HostZone) (day millisecond : ℤ) : ℤ :=
  let localTime := day * 86400000 + millisecond
  localTime - zone.localOffset localTime

/-- `Date.prototype.setHours`. -/
def setHours (zone : HostZone) (instant hours minutes seconds milliseconds : ℤ) : ℤ :=
  zone.ofLocal (zone.day instant) (((hours * 60 + minutes) * 60 + seconds) * 1000 + milliseconds)

end HostZone

/-! ## The list -/

/-- `{ from, to }`. -/
structure DriverWindow where
  start : ℤ
  finish : ℤ
  deriving DecidableEq, Repr

/-- The window of `tripsService.listByDriver`. -/
def driverWindow (zone : HostZone) (now : ℤ) : DriverWindow where
  start := now - 4 * 60 * 60 * 1000
  finish := zone.setHours now 23 59 59 999

/-- The `where` of `tripsRepository.listByDriver`. -/
def driverWhere (driverId : DriverId) (window : Option DriverWindow) : List (Trip → Bool) :=
  [fun t => t.driverId == some driverId] ++
  pushIf window fun w t => w.start ≤ t.departureTime && t.departureTime ≤ w.finish

/-- `tripsRepository.listByDriver`. -/
def findByDriver (order : TripOrder) (driverId : DriverId) (window : Option DriverWindow)
    (db : DB) : List TripDTO :=
  ((db.trips.filter (allOf (driverWhere driverId window))).insertionSort
    fun a b => order.le .departure a b = true).map (advertised db)

/-- `tripsService.listByDriver`. -/
def listByDriver (order : TripOrder) (zone : HostZone) (now : ℤ) (driverId : DriverId) (db : DB) :
    List TripDTO :=
  findByDriver order driverId (some (driverWindow zone now)) db

theorem advertised_injective (db : DB) : Function.Injective (advertised db) :=
  fun _ _ h => congrArg TripDTO.toTrip h

/-- A trip of the driver is listed when it departs in the window. -/
theorem mem_listByDriver {order : TripOrder} {zone : HostZone} {now : ℤ} {driverId : DriverId}
    {db : DB} {t : Trip} (ht : t ∈ db.trips) (hdriver : t.driverId = some driverId) :
    advertised db t ∈ listByDriver order zone now driverId db ↔
      now - 14400000 ≤ t.departureTime ∧
        t.departureTime ≤ zone.setHours now 23 59 59 999 := by
  rw [listByDriver, findByDriver, List.mem_map_of_injective (advertised_injective db),
    List.mem_insertionSort, List.mem_filter]
  simp [allOf, driverWhere, pushIf, driverWindow, ht, hdriver]

/-! ## The day in WAT -/

/-- The last millisecond of the day in WAT that an instant lies in. -/
def watDayEnd (instant : ℤ) : ℤ :=
  (instant + 3600000) / 86400000 * 86400000 + 86399999 - 3600000

/-- The end of `watDayBounds` for the date of an instant. -/
theorem eq_watDayEnd {date : IsoDate} {instant start finish : ℤ}
    (hbounds : watDayBounds date = (some start, some finish)) (hstart : start ≤ instant)
    (hfinish : instant ≤ finish) : finish = watDayEnd instant := by
  obtain ⟨hs, hf⟩ := Prod.mk.inj hbounds
  have hdate : (date.toDate 0).isSome := by rw [hs]; rfl
  rw [IsoDate.toDate_of_isSome hdate, Option.some.injEq] at hs hf
  rw [watDayEnd]
  omega

theorem le_watDayEnd (instant : ℤ) : instant ≤ watDayEnd instant := by
  rw [watDayEnd]
  omega

/-- The host's day of an instant ends when the one in WAT does. -/
def HostZone.EndsWithWat (zone : HostZone) (instant : ℤ) : Prop :=
  zone.ofLocal (zone.day instant) 86399999 = watDayEnd instant

/-- A zone of one offset ends its days with WAT when it is at `UTC+1`, and else never. -/
theorem endsWithWat_fixed_iff {offset : ℤ} (hlow : -43200000 ≤ offset) (hhigh : offset ≤ 50400000)
    (instant : ℤ) : (HostZone.fixed offset).EndsWithWat instant ↔ offset = 3600000 := by
  rw [HostZone.EndsWithWat, HostZone.ofLocal, HostZone.day, HostZone.fixed, watDayEnd]
  constructor
  · intro h
    dsimp only at h
    omega
  · rintro rfl
    rfl

/-! ## The window and the day -/

/-- A trip of driver `7`. -/
def nightBus (departureTime : ℤ) : Trip :=
  { id := 1, operatorId := 3, fromCity := "Oyo", toCity := "Aba", departureTime
    arrivalTime := none, price := 5000, totalSeats := 0, vehicleType := "Bus", driverId := some 7
    parkName := none, amenities := [] }

/-- The tables with that trip only. -/
def nightBuses (departureTime : ℤ) : DB := ⟨[], [nightBus departureTime], [], [], [], []⟩

/-- The list has the trips of the driver from four hours ago to the end of the day in WAT, for
every table of trips, exactly when the host's day ends with that one.  The day is the one of
`watDayBounds`. -/
theorem listByDriver_iff (order : TripOrder) (zone : HostZone) (now : ℤ) :
    (∀ date start finish, watDayBounds date = (some start, some finish) → start ≤ now →
      now ≤ finish → finish = watDayEnd now) ∧
    ((∀ driverId (db : DB), ∀ t ∈ db.trips, t.driverId = some driverId →
      (advertised db t ∈ listByDriver order zone now driverId db ↔
        now - 14400000 ≤ t.departureTime ∧ t.departureTime ≤ watDayEnd now)) ↔
      zone.EndsWithWat now) := by
  refine ⟨fun _ _ _ => eq_watDayEnd, ?_⟩
  have hfinish : zone.setHours now 23 59 59 999 = zone.ofLocal (zone.day now) 86399999 := rfl
  have hnow := le_watDayEnd now
  constructor
  · intro h
    -- a trip that departs as one of the two days ends, and is after the end of the other
    have hlisted : ∀ d, now - 14400000 ≤ d ∧ d ≤ zone.setHours now 23 59 59 999 ↔
        now - 14400000 ≤ d ∧ d ≤ watDayEnd now := by
      intro d
      have hmem : nightBus d ∈ (nightBuses d).trips := List.mem_singleton_self _
      exact (mem_listByDriver hmem rfl).symm.trans (h 7 (nightBuses d) (nightBus d) hmem rfl)
    have hwat := (hlisted (watDayEnd now)).mpr ⟨by omega, le_refl _⟩
    have hhost := (hlisted (zone.setHours now 23 59 59 999)).mp ⟨by omega, le_refl _⟩
    rw [HostZone.EndsWithWat, ← hfinish]
    omega
  · intro h driverId db t ht hdriver
    rw [mem_listByDriver ht hdriver, hfinish, h]

/-- Half past midnight in WAT on 21 July 2026. -/
def halfPastMidnight : ℤ := 1784590200000

/-- On a server at UTC, half an hour before its midnight, the driver does not see the trip that
departs at six in the morning. -/
theorem listByDriver_sixInTheMorning : ¬ (∀ driverId (db : DB), ∀ t ∈ db.trips,
    t.driverId = some driverId →
      (advertised db t ∈ listByDriver .byKey (.fixed 0) halfPastMidnight driverId db ↔
        halfPastMidnight - 14400000 ≤ t.departureTime ∧
          t.departureTime ≤ watDayEnd halfPastMidnight)) := by
  intro h
  have hsix := h 7 (nightBuses 1784610000000) (nightBus 1784610000000)
    (List.mem_singleton_self _) rfl
  have hempty : listByDriver .byKey (.fixed 0) halfPastMidnight 7 (nightBuses 1784610000000) = [] := by
    decide +kernel
  rw [hempty] at hsix
  exact absurd (hsix.mpr (by decide)) List.not_mem_nil

end Trips
end TransHub
