import LineShell.Cli.Option

namespace LineShell.Cli

structure Page where
  path : String
  operands : List String
  summary : String
  options : List (String × String)
  commands : List (String × String)

def Opt.entry {α : Type} (o : Opt α) : String × String :=
  let names := ", ".intercalate o.names
  match o.meaning with
  | .flag _ => (names, o.help)
  | .withValue metavar _ => (names ++ " " ++ metavar, o.help)

namespace Page

def usage (p : Page) : String :=
  "Usage: " ++ " ".intercalate (p.path :: "[OPTIONS]" :: p.operands)

def hint (p : Page) : String :=
  "Try '" ++ p.path ++ " --help' for help."

def table (rows : List (String × String)) : List String :=
  let width := (rows.map fun r => r.1.length).foldl max 0
  rows.map fun (key, text) =>
    "  " ++ key ++ String.ofList (List.replicate (width - key.length + 2) ' ') ++ text

def block (title : String) (rows : List (String × String)) : List String :=
  if rows.isEmpty then [] else "" :: (title ++ ":") :: table rows

def lines (p : Page) : List String :=
  [p.usage, "", "  " ++ p.summary] ++ block "Options" p.options ++ block "Commands" p.commands

def text (p : Page) : String :=
  "\n".intercalate p.lines

def complaint (p : Page) (fault : UsageFault) : String :=
  let error := "Error: " ++ fault.message
  if fault.isAboutValue then error else "\n".intercalate [p.usage, p.hint, "", error]

end Page

end LineShell.Cli
