import Decouple.FileRole
import Decouple.Signature.Import
import Decouple.Snapshot

/-!
# Replacement modules

Cleaning leads imports of platform hooks to modules of the project's own, or leaves hooks without
an import.  For each hook of the catalog that a source file still needs, a standalone module is
added to the compat folder, with an index of the added modules.
-/

namespace Decouple

open CodePoint (is isWord)
open Pattern Signature

/-- A hook with the module that replaces it. -/
structure Hook where
  /-- The name of its module. -/
  name : Text
  /-- The function that it is called by. -/
  function : Text
  content : Text
  deriving DecidableEq

/-- A generated module. -/
structure Polyfill where
  symbol : Text
  path : Text
  content : Text
  deriving DecidableEq

namespace Hook

/-- Lines, each with a line feed after it. -/
def ofLines (lines : List String) : Text :=
  lines.flatMap fun line => Text.ofString line ++ "\n"

/-- Whether the window is as narrow as a phone's. -/
def useMobile : Hook where
  name := "use-mobile"
  function := "useIsMobile"
  content := ofLines [
    "import \x7b useState, useEffect \x7d from 'react';",
    "",
    "/**",
    " * Detects a mobile-sized viewport.",
    " * Generated by liberator.",
    " */",
    "export function useIsMobile() \x7b",
    "  const [isMobile, setIsMobile] = useState(false);",
    "",
    "  useEffect(() => \x7b",
    "    const checkMobile = () => setIsMobile(window.innerWidth < 768);",
    "    checkMobile();",
    "    window.addEventListener('resize', checkMobile);",
    "    return () => window.removeEventListener('resize', checkMobile);",
    "  \x7d, []);",
    "",
    "  return isMobile;",
    "\x7d",
    "",
    "export default useIsMobile;"]

/-- Short notifications. -/
def useToast : Hook where
  name := "use-toast"
  function := "useToast"
  content := ofLines [
    "import \x7b useState, useCallback \x7d from 'react';",
    "",
    "/**",
    " * Minimal toast notification state.",
    " * Generated by liberator.",
    " */",
    "export interface Toast \x7b",
    "  id: string;",
    "  title?: string;",
    "  description?: string;",
    "  variant?: 'default' | 'destructive';",
    "\x7d",
    "",
    "let toastCount = 0;",
    "",
    "export function useToast() \x7b",
    "  const [toasts, setToasts] = useState<Toast[]>([]);",
    "",
    "  const dismiss = useCallback((id: string) => \x7b",
    "    setToasts(prev => prev.filter(t => t.id !== id));",
    "  \x7d, []);",
    "",
    "  const toast = useCallback((\x7b title, description, variant = 'default' \x7d: Omit<Toast, 'id'>) => \x7b",
    "    const id = String(++toastCount);",
    "    setToasts(prev => [...prev, \x7b id, title, description, variant \x7d]);",
    "    setTimeout(() => dismiss(id), 5000);",
    "    return \x7b id, dismiss: () => dismiss(id) \x7d;",
    "  \x7d, [dismiss]);",
    "",
    "  return \x7b toast, toasts, dismiss \x7d;",
    "\x7d",
    "",
    "export default useToast;"]

/-- Whether the sidebar is open. -/
def useSidebar : Hook where
  name := "use-sidebar"
  function := "useSidebar"
  content := ofLines [
    "import \x7b useState, createContext, useContext \x7d from 'react';",
    "",
    "/**",
    " * Sidebar open/closed state, shared through context when a provider exists.",
    " * Generated by liberator.",
    " */",
    "export interface SidebarState \x7b",
    "  isOpen: boolean;",
    "  toggle: () => void;",
    "  open: () => void;",
    "  close: () => void;",
    "\x7d",
    "",
    "const SidebarContext = createContext<SidebarState | null>(null);",
    "",
    "export function useSidebar(): SidebarState \x7b",
    "  const context = useContext(SidebarContext);",
    "  const [isOpen, setIsOpen] = useState(true);",
    "",
    "  if (context) return context;",
    "",
    "  return \x7b",
    "    isOpen,",
    "    toggle: () => setIsOpen(prev => !prev),",
    "    open: () => setIsOpen(true),",
    "    close: () => setIsOpen(false),",
    "  \x7d;",
    "\x7d",
    "",
    "export \x7b SidebarContext \x7d;",
    "export default useSidebar;"]

/-- The hooks that have a replacement. -/
def catalog : List Hook := [useMobile, useToast, useSidebar]

end Hook

namespace Polyfill

/-- The compat folder without slashes at its ends. -/
def folder (s : Settings) : Text := Text.trimOf (is '/') s.compatFolder

/-- How imports name the compat folder: without the source folder in front. -/
def importedFolder (s : Settings) : Text := (Text.dropStart? "src/" (folder s)).getD (folder s)

/-- The path of a hook's module. -/
def modulePath (s : Settings) (h : Hook) : Text := folder s ++ "/" ++ h.name ++ ".ts"

/-- The path of the index. -/
def indexPath (s : Settings) : Text := folder s ++ "/index.ts"

/-- A mention of a hook's module. -/
def mention (s : Settings) (h : Hook) : Pattern :=
  sequence [
    literal (importedFolder s ++ "/" ++ h.name), notFollowedBy (one fun c => isWord c || c = '-')]

/-- The names that a text imports from platform modules. -/
def platformNames (s : Settings) (t : Text) : List Text :=
  (boundImports t).flatMap fun (specifier, names) =>
    if (s.specifierOwner? specifier).isSome then names else []

/-- Whether a text needs a hook: it mentions its module or imports its function from a platform. -/
def textNeeds (s : Settings) (t : Text) (h : Hook) : Bool :=
  (mention s h).occursIn t || (platformNames s t).contains h.function

/-- Whether a file may need hooks: text of a source file outside the compat folder. -/
def mayNeed (s : Settings) (f : File) : Bool :=
  f.content.isText && !Text.startsWith f.path (folder s ++ "/") && FileRole.ofPath f.path = .source

/-- The hooks that files need, in the order of the catalog. -/
def needed (s : Settings) (files : Snapshot) : List Hook :=
  Hook.catalog.filter fun h =>
    files.files.any fun f => mayNeed s f && textNeeds s f.content.asText h

/-- The module of a hook. -/
def ofHook (s : Settings) (h : Hook) : Polyfill := ⟨h.function, modulePath s h, h.content⟩

/-- The modules that are needed and not there. -/
def missing (s : Settings) (files : Snapshot) : List Polyfill :=
  ((needed s files).filter fun h => !files.contains (modulePath s h)).map (ofHook s)

/-- The line of the index for a module. -/
def exportLine (p : Polyfill) : Text :=
  let file := Text.afterLast '/' p.path
  "export * from './" ++ ((Text.dropEnd? ".ts" file).getD file) ++ "';"

/-- The index of some modules. -/
def index (ps : List Polyfill) : Text := Text.join "\n" (ps.map exportLine) ++ "\n"

/-- The files to add: the modules, and their index if there is none. -/
def added (s : Settings) (files : Snapshot) (ps : List Polyfill) : List File :=
  let modules := ps.map fun p => ⟨p.path, .text p.content⟩
  if files.contains (indexPath s) then modules
  else modules ++ [⟨indexPath s, .text (index ps)⟩]

/-- The files with the modules that were missing, and these modules. -/
def complete (s : Settings) (files : Snapshot) : Snapshot × List Polyfill :=
  let ps := missing s files
  if ps.isEmpty then (files, []) else (files.putAll (added s files ps), ps)

end Polyfill

end Decouple
