import TypedTraffic.Command.Outcome
import TypedTraffic.Terminal.Table
import TypedTraffic.Text.Truncate

/-!
# Listing endpoints

The endpoints of a capture are listed in a table, with the number of
their exchanges and the URL of the first one.
-/

namespace TypedTraffic.Command

/-- The most characters of a URL that are listed. -/
def urlWidth : Int := 60

/-- The row of an endpoint. -/
def endpointRow (g : EndpointGroup) : List (List Char) :=
  [Terminal.escape g.key.toList, (toString g.exchanges.length).toList,
   Terminal.escape (Text.truncated urlWidth g.firstUrl).toList]

/-- **The table of some endpoints.** -/
def endpointTable (gs : List EndpointGroup) : Terminal.Table :=
  { title := "Endpoints"
    columns := [⟨"Key", false⟩, ⟨"Entries", true⟩, ⟨"First URL", false⟩]
    rows := gs.map endpointRow }

/-- The lines above the table. -/
def summary (entries : Nat) (gs : List EndpointGroup) : String :=
  "HAR Summary\n  Entries: " ++ toString entries ++ " ("
    ++ toString (entries - Session.keptCount gs) ++ " without absolute URL)\n  Endpoints: "
    ++ toString gs.length ++ "\n\n"

/-- **List the endpoints of the capture at a path.** -/
def inspect (environment : Environment) (path : String) : Outcome :=
  match environment.files.capture path true with
  | .error fault => fault.outcome environment.files ""
  | .ok recording =>
    let gs := groupExchanges recording.capture.exchanges
    let said := summary recording.capture.exchanges.length gs
    let listing := if gs.isEmpty then "No endpoints found.\n" else (endpointTable gs).printed
    match recording.standIns.fault? listing with
    | some fault => .interrupted environment.files said (.encoding (.printed fault))
    | none => .done environment.files (said ++ listing)

end TypedTraffic.Command
