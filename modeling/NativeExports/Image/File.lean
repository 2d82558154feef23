import NativeExports.Workspace
import NativeExports.Image.Codec
/-!
Image files in a workspace.  Reading a file that holds no image names the path before the
reason; writing an image makes its directory first and puts the image in place through a
temporary file of the same directory, so that a reader never sees half an image.
-/

namespace NativeExports

namespace Workspace

/-- The image stored at a path; a fault of reading or decoding names the path. -/
def readImage (w : Workspace) (p : String) : Except Fault Image :=
  if w.isDirectory p then .error (.context p (systemFault "read" p "is a directory"))
  else do
    let bytes ← w.readFile p
    (Image.decode bytes).mapError fun e => .context p e.toFault

/-- Writes an image to a path, making its directory first. -/
def writeImage (w : Workspace) (p : String) (img : Image) : Except Fault Workspace := do
  let dir := Path.dir p
  let w ← w.makeDirs dir
  let (w, tmp) ← w.writeTemp dir ".image-" "" img.encode
  w.rename tmp p

end Workspace

end NativeExports
