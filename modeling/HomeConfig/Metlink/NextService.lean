import HomeConfig.Library.Search
import HomeConfig.Metlink.Sensor

/-! `next_service` takes the first service of the feed that reads as the filter does. It is
the earliest one of the route only when the feed comes in that order. -/
namespace Metlink

open Python

variable {py : Runtime} {route : Option Str} {services : List Dict} {stop : Json}

/-! ### The search -/

def serviceId (service : Dict) : Json := (Dict.get service (text "ServiceID")).getD .null

/-- `str(service.route_number) == s` -/
def Reads (py : Runtime) (s : Str) (service : Dict) : Prop := py.str (serviceId service) = s

instance (s : Str) (service : Dict) : Decidable (Reads py s service) :=
  inferInstanceAs (Decidable (_ = _))

/-- The test in the generator `services`. -/
def onRoute (py : Runtime) (route : Option Str) (service : Json) : Result Bool := do
  let number ← routeNumber service
  return decide (routeText route = py.str number)

theorem firstService_eq (items : List Json) :
    firstService py route items = Search.first (fun _ => onRoute py route) items := by
  induction items with
  | nil => rfl
  | cons service rest ih =>
    rw [firstService, Search.first, ih]
    unfold onRoute
    rcases routeNumber service with e | number
    · rfl
    · by_cases h : routeText route = py.str number <;>
        simp [h]

theorem onRoute_dict (d : Dict) :
    onRoute py route (.dict d) = .ok (decide (Reads py (routeText route) d)) := by
  have hcomm : (routeText route = py.str (serviceId d)) ↔ Reads py (routeText route) d := eq_comm
  rw [← decide_eq_decide.2 hcomm]
  rfl

/-- `d` is the first service that reads so. -/
def FirstReading (py : Runtime) (s : Str) (services : List Dict) (d : Dict) : Prop :=
  ∃ i, Search.First (fun _ => Reads py s) (fun _ service => ¬ Reads py s service) services i d

theorem firstService_eq_some {service : Json} :
    firstService py route (services.map .dict) = .ok (some service) ↔
      ∃ d, service = .dict d ∧ FirstReading py (routeText route) services d := by
  rw [firstService_eq, Search.first_eq_some]
  simp only [Search.first_map, onRoute_dict, Except.ok.injEq, decide_eq_true_eq,
    decide_eq_false_iff_not]
  constructor
  · rintro ⟨i, d, rfl, h⟩
    exact ⟨d, rfl, i, h⟩
  · rintro ⟨d, rfl, i, h⟩
    exact ⟨i, d, rfl, h⟩

theorem firstService_eq_none :
    firstService py route (services.map .dict) = .ok none ↔
      ∀ d ∈ services, ¬ Reads py (routeText route) d := by
  rw [firstService_eq, Search.first_eq_none, Search.exhausted_const]
  simp [onRoute_dict]

theorem nextService_eq (hservices : stop.get (text "Services") .null =
    .ok (.list (services.map .dict))) :
    nextService py route stop = firstService py route (services.map .dict) := by
  rw [nextService, hservices]
  rfl

/-! ### What the filter asks for -/

/-- `ServiceID` equals the filter; without a filter every service is wanted. -/
def Wanted (py : Runtime) : Option Str → Dict → Prop
  | none, _ => True
  | some number, service => serviceId service ≠ .null ∧ Reads py number service

/-- `DisplayDepartureSeconds`, where it is a number. -/
def seconds (service : Dict) : Option Double :=
  (Dict.get service (text "DisplayDepartureSeconds")).bind Json.number

/-- No later than the other; a service without a time is later than any with one. -/
def NoLater (service other : Dict) : Prop :=
  ∀ y, seconds other = some y → y ≠ .nan → ∃ x, seconds service = some x ∧ x.Le y

/-- An earliest one of the wanted services, or nothing where there is none. -/
def Picks (py : Runtime) (route : Option Str) (services : List Dict) : Option Json → Prop
  | none => ∀ other ∈ services, ¬ Wanted py route other
  | some service => ∃ d ∈ services, service = .dict d ∧ Wanted py route d ∧
      ∀ other ∈ services, Wanted py route other → NoLater d other

/-- The feed has the first service of the route no later than the others. Without a filter
it is the first one with `None` for its number, and there has to be one. -/
def InOrder (py : Runtime) : Option Str → List Dict → Prop
  | none, services => services = [] ∨
      ∃ d, FirstReading py (text "None") services d ∧ ∀ other ∈ services, NoLater d other
  | some number, services => ∀ d, FirstReading py number services d →
      serviceId d ≠ .null ∧ ∀ other ∈ services, Wanted py (some number) other → NoLater d other

theorem FirstReading.mem {s : Str} {d : Dict} (h : FirstReading py s services d) :
    d ∈ services := h.choose_spec.mem

theorem FirstReading.reads {s : Str} {d : Dict} (h : FirstReading py s services d) :
    Reads py s d := h.choose_spec.accepted

/-- The search returns one service, so there is one first. -/
theorem FirstReading.unique {s : Str} {d d' : Dict} (h : FirstReading py s services d)
    (h' : FirstReading py s services d') : d = d' := by
  have heq : firstService py (some s) (services.map .dict) = .ok (some (.dict d)) :=
    firstService_eq_some.2 ⟨d, rfl, h⟩
  rw [firstService_eq_some.2 ⟨d', rfl, h'⟩] at heq
  simpa using heq.symm

theorem picks_first {d : Dict} (hfirst : FirstReading py (routeText route) services d) :
    Picks py route services (some (.dict d)) ↔ InOrder py route services := by
  cases route with
  | none =>
    constructor
    · rintro ⟨d', -, heq, -, hle⟩
      obtain rfl : d = d' := by simpa using heq
      exact .inr ⟨d, hfirst, fun other ho => hle other ho trivial⟩
    · rintro (rfl | ⟨d', hd', hle⟩)
      · exact absurd hfirst.mem List.not_mem_nil
      · obtain rfl := hfirst.unique hd'
        exact ⟨d, hfirst.mem, rfl, trivial, fun other ho _ => hle other ho⟩
  | some number =>
    constructor
    · rintro ⟨d', -, heq, hwanted, hle⟩ e he
      obtain rfl : d = d' := by simpa using heq
      obtain rfl := hfirst.unique he
      exact ⟨hwanted.1, hle⟩
    · intro h
      obtain ⟨hid, hle⟩ := h d hfirst
      exact ⟨d, hfirst.mem, rfl, ⟨hid, hfirst.reads⟩, hle⟩

theorem picks_none (hnone : ∀ d ∈ services, ¬ Reads py (routeText route) d) :
    Picks py route services none ↔ InOrder py route services := by
  cases route with
  | none =>
    constructor
    · intro h
      exact .inl (List.eq_nil_iff_forall_not_mem.2 fun d hd => h d hd trivial)
    · rintro (rfl | ⟨d, hd, -⟩)
      · exact fun other ho => absurd ho List.not_mem_nil
      · exact absurd hd.reads (hnone d hd.mem)
  | some number =>
    constructor
    · intro _ d hd
      exact absurd hd.reads (hnone d hd.mem)
    · intro _ other ho hwanted
      exact hnone other ho hwanted.2

/-- `next_service` returns an earliest service that the filter asks for exactly when the
feed has it in front. -/
theorem nextService_picks_iff
    (hservices : stop.get (text "Services") .null = .ok (.list (services.map .dict))) :
    (∃ result, nextService py route stop = .ok result ∧ Picks py route services result) ↔
      InOrder py route services := by
  rw [nextService_eq hservices]
  rcases Search.first_or_exhausted (fun _ => Reads py (routeText route)) services with
    ⟨i, d, hfirst⟩ | hnone
  · have hfirst : FirstReading py (routeText route) services d := ⟨i, hfirst⟩
    rw [firstService_eq_some.2 ⟨d, rfl, hfirst⟩, ← picks_first hfirst]
    simp
  · have hnone := Search.exhausted_const.1 hnone
    rw [firstService_eq_none.2 hnone, ← picks_none hnone]
    simp

/-! ### A delayed bus, and a feed without a filter -/

def delayedService : Dict :=
  [(text "ServiceID", .str (text "1")), (text "DisplayDepartureSeconds", .int 900)]

def timelyService : Dict :=
  [(text "ServiceID", .str (text "1")), (text "DisplayDepartureSeconds", .int 300)]

def busStop (services : List Dict) : Json := .dict [(text "Services", .list (services.map .dict))]

theorem nextService_picks_iff_busStop :
    (∃ result, nextService .ascii (some (text "1")) (busStop [timelyService, delayedService]) =
        .ok result ∧
      Picks .ascii (some (text "1")) [timelyService, delayedService] result) ↔
      InOrder .ascii (some (text "1")) [timelyService, delayedService] :=
  nextService_picks_iff rfl

theorem delayedService_first :
    FirstReading .ascii (text "1") [delayedService, timelyService] delayedService :=
  ⟨0, Search.first_zero.2 ⟨rfl, rfl⟩⟩

theorem delayedService_later : ¬ NoLater delayedService timelyService := by
  intro h
  obtain ⟨x, hx, hle⟩ := h (.finite 300) rfl (by simp)
  obtain rfl : .finite 900 = x := Option.some.inj hx
  norm_num [Double.Le] at hle

/-- The service listed first is taken although the other one comes earlier; without a
filter no service is taken at all. -/
theorem later_service_taken :
    (¬ ∃ result, nextService .ascii (some (text "1")) (busStop [delayedService, timelyService]) =
        .ok result ∧
      Picks .ascii (some (text "1")) [delayedService, timelyService] result) ∧
    ¬ ∃ result, nextService .ascii none (busStop [delayedService, timelyService]) = .ok result ∧
      Picks .ascii none [delayedService, timelyService] result := by
  constructor
  · rintro ⟨result, hresult, hpicks⟩
    have htaken : nextService .ascii (some (text "1"))
        (busStop [delayedService, timelyService]) = .ok (some (.dict delayedService)) :=
      firstService_eq_some.2 ⟨_, rfl, delayedService_first⟩
    obtain rfl : some (.dict delayedService) = result := Except.ok.inj (htaken.symm.trans hresult)
    obtain ⟨-, hle⟩ := (picks_first delayedService_first).1 hpicks _ delayedService_first
    have hid : serviceId timelyService = .str (text "1") := rfl
    have hwanted : Wanted .ascii (some (text "1")) timelyService := ⟨by simp [hid], rfl⟩
    exact delayedService_later (hle timelyService (by simp) hwanted)
  · rintro ⟨result, hresult, hpicks⟩
    have hnothing : nextService .ascii none (busStop [delayedService, timelyService]) = .ok none :=
      firstService_eq_none.2 (by decide)
    obtain rfl : none = result := Except.ok.inj (hnothing.symm.trans hresult)
    exact hpicks delayedService (by simp) trivial

end Metlink
