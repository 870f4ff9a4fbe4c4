import AirQuality.Enquiry
import AirQuality.Sync.Guard
import AirQuality.Web.Resource

/-!
# Answers to requests

A request is answered with a status and a JSON body. Parameters that are not valid are listed, what
is not found is said, and a fault of the program is not described. Numbers that are not finite are
null in bodies.

* `Site.answer`: the answer to a request; there always is one
-/

namespace AirQuality.Web

/-- A request. -/
structure Request where
  /-- The address of the site, without a path. -/
  origin : String
  method : String
  /-- The path, with escapes resolved. -/
  path : String
  /-- What follows the path, with escapes. -/
  query : String
deriving Repr, DecidableEq

/-- The answer to a request. -/
inductive Answer where
  | json (status : Nat) (body : Json)
  /-- The problems with the parameters. -/
  | problems (ps : List Problem)
  | redirect (location : String)
  | text (status : Nat) (body : String)

namespace Answer

/-- An answer that says why there is no other one. -/
def detail (status : Nat) (text : String) : Answer :=
  .json status (.obj [("detail", .str text)])

/-- The answer to a request for a path that is not known. -/
def unknownPath : Answer := detail 404 "Not Found"

/-- The answer to a request with a method that is not understood. -/
def otherMethod : Answer := detail 405 "Method Not Allowed"

/-- The answer when something has gone wrong in the program. -/
def broken : Answer := .text 500 "Internal Server Error"

/-- The answer when nothing is known about a station. -/
def notFound (what : String) (id : Int) : Answer :=
  detail 404 ("No " ++ what ++ " found for station with ID " ++ toString id ++ ".")

mutual

/-- A value with null in the place of numbers that are not finite. -/
def finite : Json → Json
  | .num (.float x) => if x.isFinite then .ofFloat x else .null
  | .arr items => .arr (finiteItems items)
  | .obj pairs => .obj (finitePairs pairs)
  | v => v

/-- The items of an array, as in `finite`. -/
def finiteItems : List Json → List Json
  | [] => []
  | v :: rest => finite v :: finiteItems rest

/-- The pairs of an object, as in `finite`. -/
def finitePairs : List (Text × Json) → List (Text × Json)
  | [] => []
  | (k, v) :: rest => (k, finite v) :: finitePairs rest

end

/-- A value as the answer; one with strings that are not well formed cannot be sent. -/
def ok (v : Json) : Answer := if v.isWellFormed then .json 200 (finite v) else broken

/-- Some values as the answer. -/
def list {α : Type} (toJson : α → Json) (vs : List α) : Answer := ok (.arr (vs.map toJson))

/-- A value as the answer, or that there is none about a station. -/
def found {α : Type} (what : String) (id : Int) (toJson : α → Json) : Option α → Answer
  | some a => ok (toJson a)
  | none => notFound what id

end Answer

/-- What answers requests: enquiries, and the pass that can be triggered. -/
structure Site (σ : Type) where
  enquiry : Enquiry σ
  pass : Act σ Sync.Report

namespace Site

variable {σ : Type}

open Sync (Guarded)

/-- The days of a window. -/
def days (ps : Parameters) : Checked Int := ps.optional "days" 7 Check.integer

/-- An answer about an aspect of a station. -/
def aspect (site : Site σ) (ps : Parameters) (id : Checked Int) : Aspect → Checked (Act σ Answer)
  | .index => id.map fun id => do
    return Answer.found "air quality index" id LiveIndex.toJson (← site.enquiry.index id)
  | .measurements => id.map fun id => do
    return Answer.found "sensor measurements" id (fun s => .arr (s.map SensorSeries.toJson))
      (← site.enquiry.sensors id)
  | .latest => id.map fun id => do
    return Answer.found "stored measurement" id Measurement.toJson (← site.enquiry.latest id)
  | .history => (fun id days => do
    let ms ← site.enquiry.history id (.int days)
    return Answer.list Measurement.toJson ms) <$> id <*> days ps
  | .statistics => (fun id days => do
    let statistics ← site.enquiry.statistics id (.int days)
    return Answer.found "statistics" id Statistics.toJson statistics) <$> id <*> days ps

/-- The answer of a resource, if its parameters are valid. -/
def answerOf (site : Site σ) (ps : Parameters) : Resource → Checked (Act (Guarded σ) Answer)
  | .stations => .valid (Guarded.inside do
    return Answer.list Station.toJson (← site.enquiry.stations))
  | .nearest => (fun lat lon radius => Guarded.inside do
    return Answer.list StationDistance.toJson
      (← site.enquiry.nearest (some (.float lat)) (some (.float lon)) (.float radius)))
    <$> ps.required "lat" Check.real <*> ps.required "lon" Check.real
    <*> ps.optional "radius" 10.0 Check.real
  | .station id aspect =>
    (site.aspect ps (Parameters.located "path" "station_id" (Check.integer (.str id))) aspect).map
      Guarded.inside
  | .measurements => (fun start stop => Guarded.inside do
    return Answer.list Measurement.toJson
      (← site.enquiry.between (.value (.str start)) (.value (.str stop))))
    <$> ps.required "start" Check.text <*> ps.required "end" Check.text
  | .ranking => (fun days limit => Guarded.inside do
    return Answer.list RankEntry.toJson (← site.enquiry.ranking (.int days) (.int limit)))
    <$> days ps <*> ps.optional "limit" 10 Check.integer
  | .trigger => .valid do
    return Answer.ok (← Guarded.exclusively .manual site.pass).toJson
  | .description => .valid (return .text 200 "")

/-- The answer in the place of a fault. -/
def onFault (fault : Fault) : Act (Guarded σ) Answer :=
  match fault with
  | .badDate _ | .invertedRange => return Answer.detail 400 (fault.message?.getD "")
  | .feedUnavailable _ => do
    Act.error "Upstream unavailable"
    return Answer.detail 503 "GIOŚ service is temporarily unavailable"
  | _ => return Answer.broken

/-- The address of another path with what follows it in a request. -/
def location (request : Request) (path : String) : String :=
  Percent.encode (request.origin ++ Percent.escapeEnds path ++
    (if request.query.isEmpty then "" else "?" ++ request.query))

/-- The answer to a request. -/
def answer (site : Site σ) (request : Request) : Act (Guarded σ) Answer :=
  match Routing.of request.method request.path with
  | .unknown => return Answer.unknownPath
  | .otherMethod => return Answer.otherMethod
  | .elsewhere path => return .redirect (location request path)
  | .found r =>
    match site.answerOf (Parameters.read request.query) r with
    | .invalid ps => return .problems ps
    | .valid act => tryCatch act onFault

end Site

end AirQuality.Web
