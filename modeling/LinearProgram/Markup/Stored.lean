/-
  Stored — configurations in files.

  A file holds a configuration as a text in UTF-8. This is the reader that the report program
  comes with; what is proved of the programs holds with any other reader, too.
-/

import LinearProgram.Markup.Value
import LinearProgram.Settings.Load
import LinearProgram.Store.Document

namespace LinearProgram.Markup

/-- Reads the configuration that octets encode. -/
def readStored : Settings.Reader := fun octets =>
  match Utf8.read octets with
  | (_, some _) => .error .configurationUndecodable
  | (text, none) =>
    match read text.withLineFeeds with
    | .ok configuration => .ok configuration
    | .error defect => .error (.configurationMalformed defect)

end LinearProgram.Markup
