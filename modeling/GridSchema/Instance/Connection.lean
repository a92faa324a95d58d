import GridSchema.Instance.Grid
import GridSchema.Wire.Frame

/-! How an instance serves a connection. -/

namespace GridSchema

/-- What became of bytes that came over a connection: the answers that were sent, whether the
connection is still open, and the grid. -/
structure Served where
  answers : Bytes
  isOpen : Bool
  grid : Grid

/-- Serves the requests among the frames of a stream, each before the next is read. The first frame
that is no request closes the connection, and what comes after it is not read. -/
def Grid.serve (grid : Grid) (stream : Bytes) : Served :=
  match _h : Wire.readFrame Wire.maxFrame Request.ofJson? stream with
  | (.message request, rest) =>
    let (response, grid) := grid.respond request
    let served := grid.serve rest
    { served with answers := Wire.frame response.toJson ++ served.answers }
  | (.ended, _) => ⟨[], true, grid⟩
  | (.fault _, _) => ⟨[], false, grid⟩
termination_by stream.length
decreasing_by
  have hne : stream ≠ [] := by
    rintro rfl
    simp [Wire.readFrame_nil] at _h
  have := Wire.length_readFrame_lt Wire.maxFrame Request.ofJson? hne
  rw [_h] at this
  exact this

end GridSchema
