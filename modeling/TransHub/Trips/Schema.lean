import TransHub.Trips.City

/-!
# Creating a trip

`createTripSchema` and what `tripsRepository.create` stores of the input it accepts.

* `IsoDateTime`: the date-time texts, with or without a time zone; `time` is what `Date.parse`
  makes of one on a host, `hasTimezone` and `parseWatDateTime` what the repository makes of it.
* `createTripSchema`: the checks on the fields and, when these pass, on the whole.
* `createTrip`: the row of an accepted input.
* `parseWatDateTime_eq`: the two readings differ by what the host is behind WAT.
* `storedWell_iff`: when the row is what the checks promise.

The host's time zone is any function from its local time to the time of the epoch, both in
milliseconds.
-/

namespace TransHub
namespace Trips

open Words

/-! ## Date-time texts -/

/-- `Z` or `±HH:MM`. -/
inductive Zone where
  | utc
  | offset (negative : Bool) (hour : Fin 24) (minute : Fin 60)
  deriving DecidableEq, Repr

/-- A text `YYYY-MM-DDTHH:MM`, then `:SS`, then `.mmm`, then a zone, each if there is one. -/
structure IsoDateTime where
  date : IsoDate
  hour : Fin 100
  minute : Fin 100
  second : Option (Fin 100 × Option (Fin 1000)) := none
  zone : Option Zone := none
  deriving DecidableEq, Repr

/-- The last digit of a number. -/
def digitChar (n : ℕ) : Char := Char.ofNat (48 + n % 10)

def twoDigits (n : ℕ) : List Char := [digitChar (n / 10), digitChar n]

def threeDigits (n : ℕ) : List Char := [digitChar (n / 100), digitChar (n / 10), digitChar n]

def Zone.text : Zone → List Char
  | .utc => ['Z']
  | .offset negative hour minute =>
    (if negative then '-' else '+') :: (twoDigits hour ++ ':' :: twoDigits minute)

/-- How far the clock of the zone is ahead of the time of the epoch. -/
def Zone.shift : Zone → ℤ
  | .utc => 0
  | .offset negative hour minute =>
    (if negative then -1 else 1) * (((hour.val * 60 + minute.val : ℕ) : ℤ) * 60000)

namespace IsoDateTime

def text (d : IsoDateTime) : List Char :=
  twoDigits (d.date.year / 100) ++ twoDigits d.date.year ++ '-' :: (twoDigits d.date.month ++
    '-' :: (twoDigits d.date.day ++ 'T' :: (twoDigits d.hour ++ ':' :: (twoDigits d.minute ++
    (match d.second with
    | none => []
    | some (second, none) => ':' :: twoDigits second
    | some (second, some ms) => ':' :: (twoDigits second ++ '.' :: threeDigits ms)) ++
    (match d.zone with
    | none => []
    | some zone => zone.text)))))

/-- The milliseconds from the epoch on the clock of the text; `none` when there is no such time
of day.  A day may end at `24:00`. -/
def localTime (d : IsoDateTime) : Option ℤ :=
  let second : ℕ := (d.second.map fun s => s.1.val).getD 0
  let ms : ℕ := ((d.second.bind fun s => s.2).map fun m => m.val).getD 0
  if (d.hour.val ≤ 23 ∧ d.minute.val ≤ 59 ∧ second ≤ 59) ∨
      (d.hour.val = 24 ∧ d.minute.val = 0 ∧ second = 0 ∧ ms = 0) then
    -- `toDate` reads its date in WAT
    d.date.toDate (((d.hour.val * 60 + d.minute.val) * 60 + second) * 1000 + ms + 3600000)
  else none

/-- `Date.parse` and `new Date`: a text without a zone is read on the host's clock. -/
def time (host : ℤ → ℤ) (d : IsoDateTime) : Option ℤ :=
  d.localTime.map fun t => match d.zone with
    | none => host t
    | some zone => t - zone.shift

/-- The text with `WAT_OFFSET` behind it. -/
def withWatOffset (d : IsoDateTime) : IsoDateTime :=
  { d with zone := some (.offset false 1 0) }

end IsoDateTime

def isSign (c : Char) : Bool := c == '+' || c == '-'

/-- The test of `hasTimezone` on a trimmed text, read from its end: `Z`, or two digits, a colon
or none, two digits and a sign. -/
def endsInZone : List Char → Bool
  | z :: c :: m :: b :: a :: s :: _ => z == 'Z' || (z.isDigit && c.isDigit &&
      (if m == ':' then b.isDigit && a.isDigit && isSign s
      else m.isDigit && b.isDigit && isSign a))
  | [z, c, m, b, a] => z == 'Z' || (z.isDigit && c.isDigit && m.isDigit && b.isDigit && isSign a)
  | z :: _ => z == 'Z'
  | [] => false

def hasTimezone (value : List Char) : Bool := endsInZone (trim isWhiteSpace value).reverse

/-- `parseWatDateTime`. -/
def parseWatDateTime (host : ℤ → ℤ) (d : IsoDateTime) : Option ℤ :=
  if hasTimezone d.text then d.time host else d.withWatOffset.time host

/-! ## The schema -/

/-- The body of the request. -/
structure CreateTripBody where
  fromCity : List Char
  toCity : List Char
  departureTime : IsoDateTime
  arrivalTime : Option IsoDateTime := none
  price : ℚ
  totalSeats : ℚ
  vehicleType : String
  driverId : Option DriverId := none
  parkName : Option (List Char) := none
  amenities : List (List Char) := []

/-- An issue that a check raises; a check without a text of its own has the library's. -/
structure Issue where
  path : String
  message : Option String
  deriving DecidableEq

/-- A check and the issue it raises when it fails. -/
structure Check where
  passes : Bool
  path : String
  message : Option String := none

/-- The issues of the checks that fail. -/
def issues (checks : List Check) : List Issue :=
  (checks.filter fun c => !c.passes).map fun c => ⟨c.path, c.message⟩

/-- `length` of a text, in units of sixteen bits. -/
def utf16Length (s : List Char) : ℕ := (s.map fun c => if c.toNat < 0x10000 then 1 else 2).sum

/-- `z.number().int()`. -/
def isInt (x : ℚ) : Bool := x.den == 1 && (-9007199254740991 ≤ x && x ≤ 9007199254740991)

/-- The fields of the schema. -/
def fieldChecks (body : CreateTripBody) : List Check :=
  [⟨2 ≤ utf16Length body.fromCity, "from", some "Origin city is required"⟩,
    ⟨2 ≤ utf16Length body.toCity, "to", some "Destination city is required"⟩,
    ⟨1 ≤ utf16Length body.departureTime.text, "departureTime", some "Departure time is required"⟩,
    ⟨isInt body.price, "price", none⟩,
    ⟨0 < body.price, "price", some "Price must be a positive integer (naira)"⟩,
    ⟨isInt body.totalSeats, "totalSeats", none⟩,
    ⟨1 ≤ body.totalSeats, "totalSeats", none⟩,
    ⟨body.totalSeats ≤ 100, "totalSeats", some "Max 100 seats per trip"⟩,
    ⟨["Bus", "Luxury Bus", "Coaster", "Car", "SUV"].contains body.vehicleType, "vehicleType", none⟩,
    ⟨body.parkName.all fun name => utf16Length (trim isWhiteSpace name) ≤ 100, "parkName", none⟩,
    ⟨body.amenities.length ≤ 15, "amenities", none⟩]

/-- The refinements of the schema, on the names it has normalized. -/
def refinements (lower : LowerCase) (host : ℤ → ℤ) (now : ℤ) (body : CreateTripBody) :
    List Check :=
  let departure := body.departureTime.time host
  [⟨normalizeCity lower body.fromCity != normalizeCity lower body.toCity, "to",
      some "Origin and destination cannot be the same"⟩,
    ⟨departure.isSome, "departureTime", some "Departure time must be a valid date/time"⟩,
    ⟨departure.all fun t => now < t, "departureTime", some "Departure time must be in the future"⟩,
    ⟨body.arrivalTime.all fun d => (d.time host).isSome, "arrivalTime",
      some "Arrival time must be a valid date/time"⟩,
    ⟨body.arrivalTime.all fun d => departure.all fun t => (d.time host).any fun t' => t < t',
      "arrivalTime", some "Arrival must be after departure"⟩]

/-- `CreateTripInput`, what the schema makes of a body. -/
structure CreateTripInput where
  fromCity : List Char
  toCity : List Char
  departureTime : IsoDateTime
  arrivalTime : Option IsoDateTime
  price : ℤ
  totalSeats : ℕ
  vehicleType : String
  driverId : Option DriverId
  parkName : Option (List Char)
  amenities : List (List Char)

def CreateTripInput.of (lower : LowerCase) (body : CreateTripBody) : CreateTripInput where
  fromCity := normalizeCity lower body.fromCity
  toCity := normalizeCity lower body.toCity
  departureTime := body.departureTime
  arrivalTime := body.arrivalTime
  price := body.price.num
  totalSeats := body.totalSeats.num.toNat
  vehicleType := body.vehicleType
  driverId := body.driverId
  parkName := body.parkName.map (trim isWhiteSpace)
  amenities := body.amenities.map (trim isWhiteSpace)

/-- `createTripSchema`; the refinements run on a body whose fields pass. -/
def createTripSchema (lower : LowerCase) (host : ℤ → ℤ) (now : ℤ) (body : CreateTripBody) :
    Except (List Issue) CreateTripInput :=
  match issues (fieldChecks body) with
  | [] => match issues (refinements lower host now body) with
    | [] => .ok (.of lower body)
    | issue :: rest => .error (issue :: rest)
  | issue :: rest => .error (issue :: rest)

/-! ## The row -/

/-- `data.arrivalTime ? parseWatDateTime(data.arrivalTime) : null`. -/
def parseArrival (host : ℤ → ℤ) : Option IsoDateTime → Option (Option ℤ)
  | none => some none
  | some d => (parseWatDateTime host d).map some

/-- The columns that `tripsRepository.create` writes; an invalid date is refused. -/
def CreateTripInput.toTripData (host : ℤ → ℤ) (input : CreateTripInput) : Option TripData := do
  let departureTime ← parseWatDateTime host input.departureTime
  let arrivalTime ← parseArrival host input.arrivalTime
  return {
    fromCity := String.ofList input.fromCity
    toCity := String.ofList input.toCity
    departureTime, arrivalTime
    price := input.price
    totalSeats := input.totalSeats
    vehicleType := input.vehicleType
    driverId := input.driverId
    parkName := input.parkName.map String.ofList
    amenities := input.amenities.map String.ofList }

/-- `tripsRepository.create` on an accepted input. -/
def createTrip (host : ℤ → ℤ) (tripUuid : TripId) (seatUuid : ℕ → SeatId)
    (input : CreateTripInput) (operatorId : OperatorId) (db : DB) : Except Thrown DB := do
  let data ← orThrow (input.toTripData host) (.db .failed)
  create tripUuid seatUuid data operatorId db

/-! ## The two readings of a text -/

/-- What holds of each digit. -/
theorem digitChar_induction {P : Char → Prop} (h : ∀ n : Fin 10, P (Char.ofNat (48 + n)))
    (n : ℕ) : P (digitChar n) := h ⟨n % 10, Nat.mod_lt n (by decide)⟩

@[simp] theorem isDigit_digitChar (n : ℕ) : (digitChar n).isDigit = true :=
  digitChar_induction (P := fun c => c.isDigit = true) (by decide) n

@[simp] theorem digitChar_ne_Z (n : ℕ) : (digitChar n == 'Z') = false :=
  digitChar_induction (P := fun c => (c == 'Z') = false) (by decide) n

@[simp] theorem digitChar_ne_colon (n : ℕ) : (digitChar n == ':') = false :=
  digitChar_induction (P := fun c => (c == ':') = false) (by decide) n

@[simp] theorem isSign_digitChar (n : ℕ) : isSign (digitChar n) = false :=
  digitChar_induction (P := fun c => isSign c = false) (by decide) n

@[simp] theorem isWhiteSpace_digitChar (n : ℕ) : isWhiteSpace (digitChar n) = false :=
  digitChar_induction (P := fun c => isWhiteSpace c = false) (by decide) n

namespace IsoDateTime

/-- There is no white space in a date-time text. -/
theorem all_text (d : IsoDateTime) : (d.text.all fun c => !isWhiteSpace c) = true := by
  obtain ⟨date, hour, minute, second, zone⟩ := d
  have hdash : isWhiteSpace '-' = false := rfl
  have hT : isWhiteSpace 'T' = false := rfl
  have hcolon : isWhiteSpace ':' = false := rfl
  have hdot : isWhiteSpace '.' = false := rfl
  have hplus : isWhiteSpace '+' = false := rfl
  have hZ : isWhiteSpace 'Z' = false := rfl
  rcases second with _ | ⟨second, _ | ms⟩ <;> rcases zone with _ | _ | ⟨_ | _, zh, zm⟩ <;>
    simp [text, twoDigits, threeDigits, Zone.text, hdash, hT, hcolon, hdot, hplus, hZ]

theorem trim_text (d : IsoDateTime) : trim isWhiteSpace d.text = d.text := by
  have hall : ∀ c ∈ d.text, isWhiteSpace c = false := by
    intro c hc
    simpa using List.all_eq_true.mp d.all_text c hc
  have htrim := trim_append (p := isWhiteSpace) (a := []) (b := []) (y := d.text)
    (fun c hc => absurd hc List.not_mem_nil) (fun c hc => absurd hc List.not_mem_nil)
    (fun c hc => hall c (List.mem_of_mem_head? hc))
    (fun c hc => hall c (List.mem_of_mem_getLast? hc))
  simpa using htrim

/-- The test finds the zone when there is one. -/
theorem hasTimezone_text (d : IsoDateTime) : hasTimezone d.text = d.zone.isSome := by
  rw [hasTimezone, trim_text]
  obtain ⟨date, hour, minute, second, zone⟩ := d
  have hT : isSign 'T' = false := rfl
  have hcolon : isSign ':' = false := rfl
  have hplus : isSign '+' = true := rfl
  have hminus : isSign '-' = true := rfl
  rcases second with _ | ⟨second, _ | ms⟩ <;> rcases zone with _ | _ | ⟨_ | _, zh, zm⟩ <;>
    simp [text, twoDigits, threeDigits, Zone.text, endsInZone, hT, hcolon, hplus, hminus]

/-- What the host's clock is behind WAT, where the text has no zone of its own. -/
def lag (host : ℤ → ℤ) (d : IsoDateTime) : ℤ :=
  if d.zone.isSome then 0 else (d.localTime.map fun t => host t - (t - 3600000)).getD 0

/-- The repository reads a text as the schema does, less what the host is behind WAT. -/
theorem parseWatDateTime_eq (host : ℤ → ℤ) (d : IsoDateTime) :
    parseWatDateTime host d = (d.time host).map fun t => t - d.lag host := by
  rw [parseWatDateTime, hasTimezone_text]
  cases hzone : d.zone with
  | none =>
    have hlocal : d.withWatOffset.localTime = d.localTime := rfl
    have hshift : (Zone.offset false 1 0).shift = 3600000 := rfl
    rw [Option.isSome_none, if_neg Bool.false_ne_true, time, time, hlocal, lag, hzone]
    cases d.localTime with
    | none => simp
    | some t => simp [withWatOffset, hshift]
  | some zone =>
    rw [Option.isSome_some, if_pos rfl, lag, hzone, Option.isSome_some, if_pos rfl]
    cases d.time host <;> simp

end IsoDateTime

/-! ## What the schema has checked -/

theorem issues_eq_nil {checks : List Check} :
    issues checks = [] ↔ ∀ c ∈ checks, c.passes = true := by
  simp [issues, List.filter_eq_nil_iff]

/-- An accepted body passes every check. -/
theorem createTripSchema_ok {lower : LowerCase} {host : ℤ → ℤ} {now : ℤ} {body : CreateTripBody}
    {input : CreateTripInput} (h : createTripSchema lower host now body = .ok input) :
    (∀ c ∈ fieldChecks body, c.passes = true) ∧
      (∀ c ∈ refinements lower host now body, c.passes = true) ∧ input = .of lower body := by
  unfold createTripSchema at h
  split at h
  · next hfields =>
    split at h
    · next hrefinements =>
      cases h
      exact ⟨issues_eq_nil.mp hfields, issues_eq_nil.mp hrefinements, rfl⟩
    · cases h
  · cases h

/-- What the schema knows of an accepted body. -/
structure Accepted (lower : LowerCase) (host : ℤ → ℤ) (now : ℤ) (body : CreateTripBody)
    (departure : ℤ) : Prop where
  different : normalizeCity lower body.fromCity ≠ normalizeCity lower body.toCity
  departs : body.departureTime.time host = some departure
  future : now < departure
  arrives : ∀ d ∈ body.arrivalTime, ∃ t, d.time host = some t ∧ departure < t
  price : 0 < body.price.num
  totalSeats : body.totalSeats.num.toNat ≤ 100
  seats : (body.totalSeats.num.toNat : ℚ) = body.totalSeats

theorem Accepted.of_ok {lower : LowerCase} {host : ℤ → ℤ} {now : ℤ} {body : CreateTripBody}
    {input : CreateTripInput} (h : createTripSchema lower host now body = .ok input) :
    ∃ departure, Accepted lower host now body departure := by
  obtain ⟨hfields, hrefinements, -⟩ := createTripSchema_ok h
  simp only [fieldChecks, List.forall_mem_cons] at hfields
  simp only [refinements, List.forall_mem_cons] at hrefinements
  obtain ⟨-, -, -, -, hprice, hint, hone, hseats, -⟩ := hfields
  obtain ⟨hdifferent, hsome, hfuture, -, hafter, -⟩ := hrefinements
  obtain ⟨departure, hdeparture⟩ := Option.isSome_iff_exists.mp hsome
  rw [hdeparture] at hfuture hafter
  have hnum : (body.totalSeats.num : ℚ) = body.totalSeats :=
    Rat.coe_int_num_of_den_eq_one (beq_iff_eq.mp (Bool.and_eq_true_iff.mp hint).1)
  have hle : body.totalSeats.num ≤ 100 := by
    have hcast : (body.totalSeats.num : ℚ) ≤ 100 := hnum.trans_le (of_decide_eq_true hseats)
    exact_mod_cast hcast
  have hge : 1 ≤ body.totalSeats.num := by
    have hcast : (1 : ℚ) ≤ body.totalSeats.num := (of_decide_eq_true hone).trans_eq hnum.symm
    exact_mod_cast hcast
  have hnat : (body.totalSeats.num.toNat : ℚ) = body.totalSeats := by
    have hcast : ((body.totalSeats.num.toNat : ℤ) : ℚ) = body.totalSeats := by
      rw [Int.toNat_of_nonneg (by omega), hnum]
    exact_mod_cast hcast
  refine ⟨departure, by simpa using hdifferent, hdeparture, by simpa using hfuture, ?_,
    Rat.num_pos.mpr (of_decide_eq_true hprice), by omega, hnat⟩
  intro d hd
  rw [Option.mem_def.mp hd] at hafter
  simp only [Option.all_some, Option.any_eq_true, decide_eq_true_eq] at hafter
  obtain ⟨t, ht, hlt⟩ := hafter
  exact ⟨t, ht, hlt⟩

/-! ## What is stored -/

/-- A stored trip as its validation promises it. -/
structure StoredWell (lower : LowerCase) (now : ℤ) (db : DB) (t : Trip) : Prop where
  departs : now < t.departureTime
  arrives : ∀ a ∈ t.arrivalTime, t.departureTime < a
  cities : t.fromCity ≠ "" ∧ t.toCity ≠ ""
  canonical : normalizeCity lower t.fromCity.toList = t.fromCity.toList ∧
    normalizeCity lower t.toCity.toList = t.toCity.toList
  different : t.fromCity ≠ t.toCity
  price : 0 < t.price
  seats : (db.seats.filter fun s => s.tripId == t.id).length = t.totalSeats
  available : ∀ s ∈ db.seats, s.tripId = t.id → s.status = .available
  labels : ((db.seats.filter fun s => s.tripId == t.id).map Seat.label).Nodup

/-- A successful `create` has inserted the row of its data. -/
theorem create_eq_ok {tripUuid : TripId} {seatUuid : ℕ → SeatId} {data : TripData}
    {operatorId : OperatorId} {db db' : DB}
    (h : create tripUuid seatUuid data operatorId db = .ok db') :
    Table.insert Trip.clash db.trips { data with id := tripUuid, operatorId } = some db'.trips ∧
      Table.insertMany Seat.clash db.seats (newSeats tripUuid seatUuid data.totalSeats)
        = some db'.seats := by
  obtain ⟨-, -, h⟩ := bind_eq_ok.mp h
  obtain ⟨trips, htrips, h⟩ := bind_eq_ok.mp h
  obtain ⟨seats, hseats, h⟩ := bind_eq_ok.mp h
  cases h
  exact ⟨orThrow_eq_ok.mp htrips, orThrow_eq_ok.mp hseats⟩

/-- A new trip has the seats generated for it and no others. -/
theorem filter_seats_of_create {tripUuid : TripId} {seatUuid : ℕ → SeatId} {data : TripData}
    {operatorId : OperatorId} {db db' : DB}
    (hfk : ∀ s ∈ db.seats, ∃ t ∈ db.trips, t.id = s.tripId)
    (h : create tripUuid seatUuid data operatorId db = .ok db') :
    (db'.seats.filter fun s => s.tripId == tripUuid) =
      newSeats tripUuid seatUuid data.totalSeats := by
  obtain ⟨htrips, hseats⟩ := create_eq_ok h
  obtain ⟨hfresh, -⟩ := Table.insert_eq_some.mp htrips
  obtain ⟨hseats, -⟩ := Table.insertMany_eq_some hseats
  have hold : (db.seats.filter fun s => s.tripId == tripUuid) = [] := by
    rw [List.filter_eq_nil_iff]
    intro s hs hid
    obtain ⟨t, ht, htrip⟩ := hfk s hs
    have hclash := hfresh t ht
    rw [Trip.clash, htrip, beq_iff_eq.mp hid] at hclash
    exact absurd hclash (by simp)
  have hnew : ((newSeats tripUuid seatUuid data.totalSeats).filter fun s => s.tripId == tripUuid) =
      newSeats tripUuid seatUuid data.totalSeats := by
    rw [List.filter_eq_self]
    intro s hs
    exact beq_iff_eq.mpr (mem_newSeats hs).1
  rw [hseats, List.filter_append, hold, hnew, List.nil_append]

/-- The seats of a new trip bear the generated labels. -/
theorem map_label_newSeats (tripId : TripId) (seatUuid : ℕ → SeatId) (count : ℕ) :
    (newSeats tripId seatUuid count).map Seat.label = generateSeatLabels count := by
  refine List.ext_getElem (by simp [newSeats]) fun i hi hi' => ?_
  simp [newSeats]

/-- The generated labels of a trip are distinct. -/
theorem nodup_generateSeatLabels {count : ℕ} (h : count ≤ 100) :
    (generateSeatLabels count).Nodup := by
  refine List.Nodup.map_on ?_ List.nodup_range
  intro i hi j hj heq
  rw [List.mem_range] at hi hj
  have hrow := congrArg SeatLabel.row heq
  have hcol := congrArg SeatLabel.col heq
  simp only [seatLabel] at hrow hcol
  omega

/-- When the row is what the schema has checked: the names are not white space, and where a text
has no zone of its own the host is behind WAT by less than the lead time and, from the departure
to the arrival, by less than the journey. -/
structure SameReading (host : ℤ → ℤ) (now : ℤ) (body : CreateTripBody) : Prop where
  cities : (∃ c ∈ body.fromCity, isWhiteSpace c = false) ∧
    ∃ c ∈ body.toCity, isWhiteSpace c = false
  lead : ∀ t ∈ body.departureTime.time host, body.departureTime.lag host < t - now
  journey : ∀ d ∈ body.arrivalTime, ∀ t ∈ body.departureTime.time host, ∀ t' ∈ d.time host,
    d.lag host - body.departureTime.lag host < t' - t

/-- A name is empty after normalization when it is white space. -/
theorem ofList_normalizeCity_ne_iff (lower : LowerCase) (x : List Char) :
    String.ofList (normalizeCity lower x) ≠ "" ↔ ∃ c ∈ x, isWhiteSpace c = false := by
  have hnil : normalizeCity lower x = [] ↔ join ' ' (cityWords lower x) = [] := by
    rw [normalizeCity_eq]
    cases join ' ' (cityWords lower x) <;> simp [capitalize]
  have hempty : String.ofList (normalizeCity lower x) = "" ↔ normalizeCity lower x = [] :=
    @String.ofList_inj _ []
  rw [Ne, hempty, hnil, join_eq_nil_iff fun _ => isWord_of_mem_cityWords lower, cityWords,
    List.map_eq_nil_iff, words_eq_nil_iff]
  simp

/-- The columns of an accepted body. -/
theorem toTripData_of_accepted {lower : LowerCase} {host : ℤ → ℤ} {now : ℤ}
    {body : CreateTripBody} {departure : ℤ} (h : Accepted lower host now body departure)
    {data : TripData} (hdata : (CreateTripInput.of lower body).toTripData host = some data) :
    data.departureTime = departure - body.departureTime.lag host ∧
      (data.arrivalTime = body.arrivalTime.bind fun d =>
        (d.time host).map fun t => t - d.lag host) ∧
      data.fromCity = String.ofList (normalizeCity lower body.fromCity) ∧
      data.toCity = String.ofList (normalizeCity lower body.toCity) ∧
      data.price = body.price.num ∧ data.totalSeats = body.totalSeats.num.toNat := by
  have hdeparture : parseWatDateTime host body.departureTime =
      some (departure - body.departureTime.lag host) := by
    rw [IsoDateTime.parseWatDateTime_eq, h.departs, Option.map_some]
  obtain ⟨t, ht, hdata⟩ := Option.bind_eq_some_iff.mp hdata
  obtain rfl := Option.some.inj (hdeparture.symm.trans ht)
  obtain ⟨arrival, harrival, hdata⟩ := Option.bind_eq_some_iff.mp hdata
  cases hdata
  refine ⟨rfl, ?_, rfl, rfl, rfl, rfl⟩
  have harrival : parseArrival host body.arrivalTime = some arrival := harrival
  cases hbody : body.arrivalTime with
  | none =>
    rw [hbody] at harrival
    exact (Option.some.inj harrival).symm
  | some d =>
    rw [hbody] at harrival
    obtain ⟨t', ht', rfl⟩ := Option.map_eq_some_iff.mp harrival
    rw [IsoDateTime.parseWatDateTime_eq] at ht'
    exact ht'.symm

section Row

variable {lower : LowerCase} {host : ℤ → ℤ} {now : ℤ} {body : CreateTripBody} {departure : ℤ}
  {tripUuid : TripId} {operatorId : OperatorId} {db' : DB} {data : TripData}

/-- A row as its validation promises has been read as the schema read it, or nearly so. -/
theorem SameReading.of_storedWell (h : Accepted lower host now body departure)
    (hdata : (CreateTripInput.of lower body).toTripData host = some data)
    (hwell : StoredWell lower now db' { data with id := tripUuid, operatorId }) :
    SameReading host now body := by
  obtain ⟨hdeparture, harrival, hfrom, hto, -, -⟩ := toTripData_of_accepted h hdata
  have hdeparts : ∀ t ∈ body.departureTime.time host, t = departure := fun t ht =>
    Option.some.inj ((Option.mem_def.mp ht).symm.trans h.departs)
  have hlead : now < data.departureTime := hwell.departs
  have hfromCity : data.fromCity ≠ "" := hwell.cities.1
  have htoCity : data.toCity ≠ "" := hwell.cities.2
  rw [hfrom, ofList_normalizeCity_ne_iff] at hfromCity
  rw [hto, ofList_normalizeCity_ne_iff] at htoCity
  refine ⟨⟨hfromCity, htoCity⟩, ?_, ?_⟩
  · intro t ht
    have hteq := hdeparts t ht
    omega
  · intro d hd t ht t' ht'
    have hteq := hdeparts t ht
    have hstored : t' - d.lag host ∈ data.arrivalTime := by
      rw [harrival, Option.mem_def.mp hd, Option.bind_some, Option.mem_def.mp ht',
        Option.map_some, Option.mem_some_iff]
    have harrives : data.departureTime < t' - d.lag host := hwell.arrives _ hstored
    omega

/-- The row of an accepted body is as its validation promises when the two readings do not differ
by too much. -/
theorem SameReading.storedWell (hsame : SameReading host now body)
    (h : Accepted lower host now body departure) {seatUuid : ℕ → SeatId} {db : DB}
    (hfk : ∀ s ∈ db.seats, ∃ t ∈ db.trips, t.id = s.tripId)
    (hdata : (CreateTripInput.of lower body).toTripData host = some data)
    (hcreate : create tripUuid seatUuid data operatorId db = .ok db') :
    StoredWell lower now db' { data with id := tripUuid, operatorId } := by
  obtain ⟨hdeparture, harrival, hfrom, hto, hprice, htotal⟩ := toTripData_of_accepted h hdata
  have hseats := filter_seats_of_create hfk hcreate
  have hcity : ∀ x, normalizeCity lower (normalizeCity lower x) = normalizeCity lower x :=
    fun x => (normalizeCity_eq_iff lower _ _).mpr (cityWords_normalizeCity lower x)
  have hlead := hsame.lead departure h.departs
  exact
    { departs := by
        show now < data.departureTime
        omega
      arrives := by
        intro a ha
        have ha : a ∈ data.arrivalTime := ha
        show data.departureTime < a
        rw [harrival] at ha
        obtain ⟨d, hd, hread⟩ := Option.bind_eq_some_iff.mp ha
        obtain ⟨t', ht', rfl⟩ := Option.map_eq_some_iff.mp hread
        have hjourney := hsame.journey d hd departure h.departs t' ht'
        omega
      cities := by
        show data.fromCity ≠ "" ∧ data.toCity ≠ ""
        rw [hfrom, hto, ofList_normalizeCity_ne_iff, ofList_normalizeCity_ne_iff]
        exact hsame.cities
      canonical := by
        show normalizeCity lower data.fromCity.toList = data.fromCity.toList ∧
          normalizeCity lower data.toCity.toList = data.toCity.toList
        rw [hfrom, hto, String.toList_ofList, String.toList_ofList]
        exact ⟨hcity _, hcity _⟩
      different := by
        show data.fromCity ≠ data.toCity
        rw [hfrom, hto, Ne, String.ofList_inj]
        exact h.different
      price := by
        show 0 < data.price
        rw [hprice]
        exact h.price
      seats := by
        show (db'.seats.filter fun s => s.tripId == tripUuid).length = data.totalSeats
        rw [hseats, length_newSeats]
      available := by
        intro s hs hid
        have hnew : s ∈ newSeats tripUuid seatUuid data.totalSeats :=
          hseats ▸ List.mem_filter.mpr ⟨hs, beq_iff_eq.mpr hid⟩
        exact (mem_newSeats hnew).2.1
      labels := by
        show ((db'.seats.filter fun s => s.tripId == tripUuid).map Seat.label).Nodup
        rw [hseats, map_label_newSeats]
        exact nodup_generateSeatLabels (htotal ▸ h.totalSeats) }

end Row

/-- An accepted body is stored as its validation promises exactly when the repository's reading
does not differ from the schema's by too much. -/
theorem storedWell_iff (lower : LowerCase) (host : ℤ → ℤ) (now : ℤ) (body : CreateTripBody)
    (input : CreateTripInput) (tripUuid : TripId) (seatUuid : ℕ → SeatId)
    (operatorId : OperatorId) (db db' : DB)
    (hfk : ∀ s ∈ db.seats, ∃ t ∈ db.trips, t.id = s.tripId)
    (haccepted : createTripSchema lower host now body = .ok input)
    (hcreate : createTrip host tripUuid seatUuid input operatorId db = .ok db') :
    (∃ t ∈ db'.trips, t.id = tripUuid ∧ t.operatorId = operatorId ∧
      (t.totalSeats : ℚ) = body.totalSeats ∧ StoredWell lower now db' t) ↔
      SameReading host now body := by
  obtain ⟨departure, h⟩ := Accepted.of_ok haccepted
  obtain ⟨-, -, rfl⟩ := createTripSchema_ok haccepted
  obtain ⟨data, hdata, hcreate⟩ := bind_eq_ok.mp hcreate
  have hdata := orThrow_eq_ok.mp hdata
  obtain ⟨-, -, -, -, -, htotal⟩ := toTripData_of_accepted h hdata
  obtain ⟨hfresh, htrips⟩ := Table.insert_eq_some.mp (create_eq_ok hcreate).1
  constructor
  · rintro ⟨t, ht, hid, -, -, hstored⟩
    -- the row with the new id is the new row
    rw [htrips] at ht
    rcases List.mem_append.mp ht with ht | ht
    · have hclash := hfresh t ht
      rw [Trip.clash, hid] at hclash
      exact absurd hclash (by simp)
    · obtain rfl := List.mem_singleton.mp ht
      exact SameReading.of_storedWell h hdata hstored
  · intro hsame
    refine ⟨_, ?_, rfl, rfl, ?_, hsame.storedWell h hfk hdata hcreate⟩
    · rw [htrips]
      exact List.mem_append_right _ (List.mem_singleton.mpr rfl)
    · show (data.totalSeats : ℚ) = body.totalSeats
      rw [htotal]
      exact h.seats

/-- A host on UTC. -/
def utcHost : ℤ → ℤ := id

/-- A departure of seven on the twentieth of July, as a form sends it. -/
def sevenBody : CreateTripBody where
  fromCity := "Lagos".toList
  toCity := "Abuja".toList
  departureTime := { date := ⟨2026, 7, 20⟩, hour := 7, minute := 0 }
  price := 5000
  totalSeats := 4
  vehicleType := "Car"

/-- Half past six of that day in UTC, half an hour after seven in WAT. -/
def halfPastSix : ℤ := 1784529000000

theorem sevenBody_accepted : createTripSchema .onAscii utcHost halfPastSix sevenBody =
    .ok (.of .onAscii sevenBody) := by
  have hfields : issues (fieldChecks sevenBody) = [] := by decide +kernel
  have hrefinements : issues (refinements .onAscii utcHost halfPastSix sevenBody) = [] := by
    decide +kernel
  simp only [createTripSchema, hfields, hrefinements]

def noTrips : DB := ⟨[], [], [], [], [], []⟩

/-- The trip that left half an hour before its operator sent it in. -/
def sevenTrips : DB :=
  { noTrips with
    trips := [{ id := 1, operatorId := 3, fromCity := "Lagos", toCity := "Abuja"
                departureTime := 1784527200000, arrivalTime := none, price := 5000
                totalSeats := 4, vehicleType := "Car", driverId := none, parkName := none
                amenities := [] }]
    seats := newSeats 1 (fun i => 10 + i) 4 }

theorem sevenBody_created : createTrip utcHost 1 (fun i => 10 + i) (.of .onAscii sevenBody) 3
    noTrips = .ok sevenTrips := by
  decide +kernel

/-- The same at nine, with the zones of the two texts: a departure in WAT and an arrival in
UTC. -/
def nineBody : CreateTripBody :=
  { sevenBody with
    departureTime :=
      { date := ⟨2026, 7, 20⟩, hour := 9, minute := 0, zone := some (.offset false 1 0) }
    arrivalTime := some { date := ⟨2026, 7, 20⟩, hour := 13, minute := 0, zone := some .utc } }

theorem nineBody_accepted : createTripSchema .onAscii utcHost halfPastSix nineBody =
    .ok (.of .onAscii nineBody) := by
  have hfields : issues (fieldChecks nineBody) = [] := by decide +kernel
  have hrefinements : issues (refinements .onAscii utcHost halfPastSix nineBody) = [] := by
    decide +kernel
  simp only [createTripSchema, hfields, hrefinements]

def nineTrips : DB :=
  { noTrips with
    trips := [{ id := 1, operatorId := 3, fromCity := "Lagos", toCity := "Abuja"
                departureTime := 1784534400000, arrivalTime := some 1784552400000, price := 5000
                totalSeats := 4, vehicleType := "Car", driverId := none, parkName := none
                amenities := [] }]
    seats := newSeats 1 (fun i => 10 + i) 4 }

theorem nineBody_created : createTrip utcHost 1 (fun i => 10 + i) (.of .onAscii nineBody) 3
    noTrips = .ok nineTrips := by
  decide +kernel

theorem nineBody_sameReading : SameReading utcHost halfPastSix nineBody where
  cities := ⟨⟨'L', List.mem_of_mem_head? (by decide +kernel), rfl⟩,
    ⟨'A', List.mem_of_mem_head? (by decide +kernel), rfl⟩⟩
  lead := by
    have hdeparture : nineBody.departureTime.time utcHost = some 1784534400000 := by
      decide +kernel
    have hlag : nineBody.departureTime.lag utcHost = 0 := rfl
    intro t ht
    obtain rfl := Option.some.inj (ht.symm.trans hdeparture)
    rw [hlag, halfPastSix]
    omega
  journey := by
    have hdeparture : nineBody.departureTime.time utcHost = some 1784534400000 := by
      decide +kernel
    intro d hd t ht t' ht'
    obtain rfl := Option.some.inj hd
    obtain rfl := Option.some.inj (ht.symm.trans hdeparture)
    have harrival : IsoDateTime.time utcHost ⟨⟨2026, 7, 20⟩, 13, 0, none, some .utc⟩ =
        some 1784552400000 := by decide +kernel
    obtain rfl := Option.some.inj (ht'.symm.trans harrival)
    show (0 : ℤ) - 0 < _
    omega

theorem storedWell_iff_sevenNine :
    ((∃ t ∈ sevenTrips.trips, t.id = 1 ∧ t.operatorId = 3 ∧
      (t.totalSeats : ℚ) = sevenBody.totalSeats ∧ StoredWell .onAscii halfPastSix sevenTrips t) ↔
        SameReading utcHost halfPastSix sevenBody) ∧
    ∃ t ∈ nineTrips.trips, t.id = 1 ∧ t.operatorId = 3 ∧
      (t.totalSeats : ℚ) = nineBody.totalSeats ∧ StoredWell .onAscii halfPastSix nineTrips t :=
  ⟨storedWell_iff .onAscii utcHost halfPastSix sevenBody _ 1 (fun i => 10 + i) 3 noTrips
      sevenTrips (fun _ hs => absurd hs List.not_mem_nil) sevenBody_accepted sevenBody_created,
    (storedWell_iff .onAscii utcHost halfPastSix nineBody _ 1 (fun i => 10 + i) 3 noTrips
      nineTrips (fun _ hs => absurd hs List.not_mem_nil) nineBody_accepted
      nineBody_created).mpr nineBody_sameReading⟩

/-- On a host on UTC the schema accepts a departure that is stored in the past. -/
theorem sevenBody_departed :
    createTripSchema .onAscii utcHost halfPastSix sevenBody = .ok (.of .onAscii sevenBody) ∧
      createTrip utcHost 1 (fun i => 10 + i) (.of .onAscii sevenBody) 3 noTrips = .ok sevenTrips ∧
      ¬ ∃ t ∈ sevenTrips.trips, t.id = 1 ∧ StoredWell .onAscii halfPastSix sevenTrips t := by
  refine ⟨sevenBody_accepted, sevenBody_created, ?_⟩
  rintro ⟨t, ht, -, hwell⟩
  obtain rfl := List.mem_singleton.mp ht
  exact absurd hwell.departs (by decide)

end Trips
end TransHub
