import AssetAudit.Text.Basic

/-!
# Paths as text

Paths are resolved by their text alone, without looking at files. A path is its components
counted from the root; `.` and empty components add nothing and `..` takes one back. A path of any
spelling inside an app has one form there, relative to the app with forward slashes.
-/
namespace AssetAudit.Path

def isAbsolute (p : Text) : Bool :=
  p.startsWith ['/']

def toPosix (p : Text) : Text :=
  Text.replaceChar '\\' '/' p

def step (resolved : List Text) (component : Text) : List Text :=
  if component = [] ∨ component = ['.'] then resolved
  else if component = ['.', '.'] then resolved.dropLast
  else resolved ++ [component]

def resolveBelow (base : List Text) (p : Text) : List Text :=
  (Text.splitOn '/' p).foldl step base

/-- The components of a path from the root; a relative path starts at the working directory. -/
def resolve (cwd p : Text) : List Text :=
  if isAbsolute p then resolveBelow [] p else resolveBelow (resolveBelow [] cwd) p

/-- Exactly two leading slashes are kept; any other number counts as one. -/
def leadingSlashes (p : Text) : Text :=
  match p with
  | '/' :: '/' :: '/' :: _ => ['/']
  | '/' :: '/' :: _ => ['/', '/']
  | _ => ['/']

def absolute (cwd p : Text) : Text :=
  leadingSlashes (if isAbsolute p then p else cwd) ++ Text.join ['/'] (resolve cwd p)

def dropCommon : List Text → List Text → List Text × List Text
  | a :: as, b :: bs => if a = b then dropCommon as bs else (a :: as, b :: bs)
  | as, bs => (as, bs)

def between (start target : List Text) : List Text :=
  let (up, down) := dropCommon start target
  up.map (fun _ => ['.', '.']) ++ down

/-- The way from one path to another as text; a path is `.` seen from itself. -/
def relative (cwd target start : Text) : Text :=
  match between (resolve cwd start) (resolve cwd target) with
  | [] => ['.']
  | way => Text.join ['/'] way

/-- The last component of a path; a path of slashes alone is its own last component. -/
def basename (p : Text) : Text :=
  let kept := Text.trimRightBy (· == '/') p
  let last := (kept.reverse.takeWhile (· != '/')).reverse
  if last.isEmpty then p else last

/-- The name of a file without its last extension. Dots in front belong to the name. -/
def stem (name : Text) : Text :=
  let extension := name.reverse.takeWhile (· != '.')
  let before := (name.reverse.drop (extension.length + 1)).reverse
  if name.contains '.' && before.any (· != '.') then before else name

inductive Inside where
  /-- The form of the path; it is empty when there is no path. -/
  | form (text : Text)
  | outside
  deriving DecidableEq, Repr

/-- Does a relative path lead above its start, or anywhere else? -/
def leadsOut (p : Text) : Bool :=
  p == ['.', '.'] || p.startsWith ['.', '.', '/'] || isAbsolute p

/-- The form of a path in the app at `app`, an absolute path. -/
def normalize (app p : Text) : Inside :=
  if isAbsolute p then
    let way := toPosix (relative ['/'] p app)
    if leadsOut way then .outside else .form way
  else
    match toPosix p with
    | '.' :: '/' :: rest => .form rest
    | other => .form other

end AssetAudit.Path
