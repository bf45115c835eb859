import EntityGen.Command.Console
import EntityGen.Naming.Words

/-! # Starting a project

`init` writes a manifest with one target and a schema for it. The class name of the target comes
from the name of the project, and files that exist already are kept.
-/

namespace EntityGen.Starter

/-- The lines of the manifest of a new project. -/
def manifestLines (project className : String) : List String := [
  "# schemagen manifest for " ++ project,
  "",
  "[project]",
  "schema_dir = \"schemas\"",
  "output_dir = \"Generated\"",
  "log_level = \"info\"",
  "",
  "[generator]",
  "navigation_suffix = \"Navigation\"",
  "collection_type = \"HashSet\"",
  "emit_header = true",
  "",
  "[generator.inflections]",
  "uncountable = []",
  "",
  "[generator.inflections.irregular]",
  "",
  "[[target]]",
  "class_name = \"" ++ className ++ "Context\"",
  "namespace = \"" ++ className ++ ".Data\"",
  "source = \"" ++ project ++ ".json\""]

/-- The lines of the schema of a new project: users, posts and who follows whom. -/
def schemaLines : List String := [
  "\x7b",
  "  \"tables\": [",
  "    \x7b",
  "      \"name\": \"users\",",
  "      \"note\": \"Registered accounts\",",
  "      \"columns\": [",
  "        \x7b \"name\": \"id\", \"type\": \"integer\", \"primary_key\": true," ++
    " \"increment\": true \x7d,",
  "        \x7b \"name\": \"username\", \"type\": \"varchar(50)\", \"not_null\": true," ++
    " \"unique\": true \x7d,",
  "        \x7b \"name\": \"role\", \"type\": \"varchar(20)\" \x7d,",
  "        \x7b \"name\": \"created_at\", \"type\": \"timestamp\" \x7d",
  "      ]",
  "    \x7d,",
  "    \x7b",
  "      \"name\": \"posts\",",
  "      \"columns\": [",
  "        \x7b \"name\": \"id\", \"type\": \"integer\", \"primary_key\": true," ++
    " \"increment\": true \x7d,",
  "        \x7b \"name\": \"title\", \"type\": \"varchar(200)\", \"not_null\": true \x7d,",
  "        \x7b \"name\": \"body\", \"type\": \"text\", \"note\": \"Content of the post\" \x7d,",
  "        \x7b \"name\": \"user_id\", \"type\": \"integer\", \"not_null\": true \x7d,",
  "        \x7b \"name\": \"status\", \"type\": \"varchar(20)\" \x7d,",
  "        \x7b \"name\": \"created_at\", \"type\": \"timestamp\" \x7d",
  "      ],",
  "      \"indexes\": [",
  "        \x7b \"columns\": [\"user_id\", \"created_at\"], \"name\":" ++
    " \"ix_posts_user_created\" \x7d",
  "      ]",
  "    \x7d,",
  "    \x7b",
  "      \"name\": \"follows\",",
  "      \"columns\": [",
  "        \x7b \"name\": \"following_user_id\", \"type\": \"integer\" \x7d,",
  "        \x7b \"name\": \"followed_user_id\", \"type\": \"integer\" \x7d,",
  "        \x7b \"name\": \"created_at\", \"type\": \"timestamp\" \x7d",
  "      ],",
  "      \"indexes\": [",
  "        \x7b \"columns\": [\"following_user_id\", \"followed_user_id\"]," ++
    " \"primary_key\": true \x7d",
  "      ]",
  "    \x7d",
  "  ],",
  "  \"relationships\": [",
  "    \x7b \"left_table\": \"posts\", \"left_columns\": [\"user_id\"], \"right_table\":" ++
    " \"users\", \"right_columns\": [\"id\"] \x7d,",
  "    \x7b \"left_table\": \"follows\", \"left_columns\": [\"following_user_id\"]," ++
    " \"right_table\": \"users\", \"right_columns\": [\"id\"] \x7d,",
  "    \x7b \"left_table\": \"follows\", \"left_columns\": [\"followed_user_id\"]," ++
    " \"right_table\": \"users\", \"right_columns\": [\"id\"] \x7d",
  "  ],",
  "  \"enums\": [",
  "    \x7b \"name\": \"PostStatus\", \"values\": [\"Draft\", \"Published\", \"Archived\"] \x7d",
  "  ]",
  "\x7d"]

def textOfLines (lines : List String) : String :=
  String.join (lines.map (· ++ "\n"))

def manifestText (project className : String) : String :=
  textOfLines (manifestLines project className)

def schemaText : String :=
  textOfLines schemaLines

/-- The characters between the words of a project name. -/
def isSeparator (c : Char) : Bool :=
  ['-', '_', ' ', '.'].contains c

/-- The words of a project name, each with its first letter raised. -/
def className (project : String) : String :=
  String.ofList ((project.toList.splitOnP isSeparator).flatMap Naming.capitalizeChars)

/-- What is wrong with the name of a project. -/
def nameError? (project : String) : Option Failure :=
  let name := className project
  if !name.toList.head?.any Char.isAlpha then some (.nameWithoutLetter project)
  else if !isIdentifier name.toList then some (.nameNotIdentifier project name)
  else none

end EntityGen.Starter

namespace EntityGen.Command

variable {m : Type → Type} [Monad m] (disk : Disk m)

/-- Writes a file that a new project gets, and says so. -/
def createFile (path text : String) : Command m Unit := do
  if !(← access (disk.writeText path text)) then throw (.fileNotWritten path)
  printLine s!"  Created {path}"

def nextSteps (directory : String) : String :=
  Starter.textOfLines [
    "",
    "Project initialized!",
    "",
    "Next steps:",
    s!"  cd {directory}",
    "  schemagen check",
    "  schemagen generate"]

/-- Starts the project of the given name in a directory. -/
def start (environment level : Option String) (name : String) (directory : Option String) :
    Command m Unit := do
  setUpLog environment level
  if let some failure := Starter.nameError? name then throw failure
  let directory := directory.getD "."
  let manifest := Path.join directory Manifest.fileName
  if ← access (disk.pathExists manifest) then throw (.manifestExists manifest)
  let schemas := Path.join directory "schemas"
  if !(← access (disk.createDirectories schemas)) then throw (.directoryNotCreated schemas)
  let schema := Path.join schemas (name ++ ".json")
  if !(← access (disk.pathExists schema)) then createFile disk schema Starter.schemaText
  createFile disk manifest (Starter.manifestText name (Starter.className name))
  note ⟨.info, .settingUp, s!"Initialized schemagen project in {directory}", []⟩
  print (nextSteps directory)

end EntityGen.Command
