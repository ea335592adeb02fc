import Flowline.Http.Basic

/-!
A client that plays back answers and keeps the requests. Once the answers have run out, every
request is answered with an empty JSON object.
-/

namespace Flowline.Http

structure Script where
  answers : List (Except HttpError Response) := []
  sent : List Request := []

namespace Script

def fallback : Response := { status := 200, body := "\x7b\x7d" }

def exchange (request : Request) (script : Script) : Except HttpError Response × Script :=
  let sent := script.sent ++ [request]
  match script.answers with
  | [] => (.ok fallback, { script with sent })
  | answer :: rest => (answer, { answers := rest, sent })

def client : Client Script where
  send := exchange

end Script

end Flowline.Http
