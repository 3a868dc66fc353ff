import DeviceFleet.Engine.Router
import DeviceFleet.Control.LineReader

/-!
# Serving a control client

Every line of the stream is answered in turn: too long or not a command as a bad request,
blank with no answer, and every other line by the router.
-/

namespace DeviceFleet.Engine

open Control

def tooLongLine : ControlResponse :=
  badLine ("Line exceeds " ++ Text.natText maxLineBytes ++ " bytes")

def isBlankLine (line : String) : Bool :=
  line.toList.all Text.isBlank

namespace Cluster

/-- Answer the lines of a control client's stream in order, each at most once. -/
def serveStream (w : Cluster) (bs : Bytes) : List ControlResponse × Cluster :=
  match _h : readRequestLine bs with
  | (.closed, _) => ([], w)
  | (.tooLong, rest) =>
    let (rs, w) := w.serveStream rest
    (tooLongLine :: rs, w)
  | (.line text, rest) =>
    if isBlankLine text then w.serveStream rest
    else
      let (r, w) := w.serveLine text
      let (rs, w) := w.serveStream rest
      (r :: rs, w)
termination_by bs.length
decreasing_by
  all_goals
    have hs := readRequestLine_shorter bs (by simp [_h])
    simp only [_h] at hs
    exact hs

def serveStreamText (w : Cluster) (bs : Bytes) : String × Cluster :=
  let (rs, w) := w.serveStream bs
  (String.join (rs.map ControlResponse.render), w)

end Cluster

theorem serveStream_nil (w : Cluster) : w.serveStream [] = ([], w) := by
  have h := readRequestLine_nil
  rw [Cluster.serveStream]
  split <;> simp_all

end DeviceFleet.Engine
