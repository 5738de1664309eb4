import DocLaunch.StringTable

namespace DocLaunch

structure Launcher where
  /-- The program, then its fixed arguments. -/
  builder : List String := []
  /-- Variables that the builder gets beside the inherited ones. -/
  env : StringTable := .empty
  deriving DecidableEq

/-- Bringing submodules up to date before the build. -/
structure Submodules where
  sync : Bool := false
  git : String := "git"
  recursive : Bool := false
  /-- Only these submodules, unless the list is empty. -/
  paths : List String := []
  deriving DecidableEq

/-- Documents that the builder's checks treat specially. -/
structure Lint where
  alphabeticalSectionTitles : List String := []
  noParagraphIds : List String := []
  deriving DecidableEq

/-- The declaration of the site, which is meant for the builder. -/
structure Site where
  project : Option String := none
  author : Option String := none
  copyright : Option String := none
  /-- The directory of the documents, below the project root. -/
  sourceDir : String := "src"
  extensions : List String := []
  /-- Data files, below the directory of the documents. -/
  substitutionsPath : Option String := none
  targetNamesPath : Option String := none
  documentId : Option String := none
  theme : Option String := none
  themePath : List String := []
  themeOptions : StringTable := .empty
  htmlTitle : Option String := none
  htmlShortTitle : Option String := none
  templatesPath : List String := []
  excludePatterns : List String := []
  lint : Lint := {}
  deriving DecidableEq

structure Settings where
  launcher : Launcher := {}
  submodules : Submodules := {}
  site : Site := {}
  deriving DecidableEq

end DocLaunch
