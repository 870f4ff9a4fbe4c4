import AirQuality.Text.Blank
import AirQuality.Web.Parameters

/-!
# Resources

The paths that requests can be made for, and the methods that they understand. A path that would be
known with a slash at its end, or without one, is redirected.

* `Resource.ofPath?`: the resource of a path
* `Routing.of`: what becomes of a request
-/

namespace AirQuality.Web

/-- What can be asked about a station. -/
inductive Aspect where
  | index
  | measurements
  | latest
  | history
  | statistics
deriving Repr, DecidableEq

/-- What requests can be made for. -/
inductive Resource where
  | stations
  | nearest
  /-- An aspect of a station, whose number is yet to be read. -/
  | station (id : String) (aspect : Aspect)
  | measurements
  | ranking
  | trigger
  /-- A page that describes the resources. -/
  | description
deriving Repr, DecidableEq

/-- The last part of a path to an aspect of a station. -/
def Aspect.ofText? : String → Option Aspect
  | "index" => some .index
  | "measurements" => some .measurements
  | "latest" => some .latest
  | "history" => some .history
  | "statistics" => some .statistics
  | _ => none

namespace Resource

/-- The resource of the parts of a path. -/
def ofParts? : List String → Option Resource
  | ["", "stations"] => some .stations
  | ["", "stations", "nearest"] => some .nearest
  | ["", "stations", id, aspect] =>
    if id.isEmpty then none else (Aspect.ofText? aspect).map (.station id)
  | ["", "measurements"] => some .measurements
  | ["", "ranking"] => some .ranking
  | ["", "sync", "trigger"] => some .trigger
  | ["", "openapi.json"] => some .description
  | ["", "docs"] => some .description
  | ["", "docs", "oauth2-redirect"] => some .description
  | ["", "redoc"] => some .description
  | _ => none

/-- The characters without a line feed at their end. -/
def dropLineEnd (cs : List Char) : List Char :=
  if cs.getLast? = some '\n' then cs.dropLast else cs

/-- The resource of a path; a line feed at its end is overlooked. -/
def ofPath? (path : String) : Option Resource :=
  ofParts? ((Text.splitAtChar '/' (dropLineEnd path.toList)).map String.ofList)

/-- The methods that a resource understands. -/
def methods : Resource → List String
  | .trigger => ["POST"]
  | .description => ["GET", "HEAD"]
  | _ => ["GET"]

end Resource

/-- What becomes of a request. -/
inductive Routing where
  | found (r : Resource)
  | otherMethod
  | elsewhere (path : String)
  | unknown
deriving Repr, DecidableEq

namespace Routing

/-- The same path without the slashes at its end, or with a slash there if it has none. -/
def alternative (path : String) : String :=
  if path.toList.getLast? = some '/' then Text.trimSlashes path else path ++ "/"

/-- What becomes of a request for a path. -/
def of (method path : String) : Routing :=
  match Resource.ofPath? path with
  | some r => if r.methods.contains method then .found r else .otherMethod
  | none =>
    -- The method does not matter for a redirection.
    let other := alternative path
    if path != "/" && (Resource.ofPath? other).isSome then .elsewhere other else .unknown

end Routing

end AirQuality.Web
