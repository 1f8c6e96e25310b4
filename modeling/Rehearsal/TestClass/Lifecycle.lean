import Rehearsal.Framework
import Rehearsal.Outline.Placeholder
import Rehearsal.Runner
import Rehearsal.Settings.Basic

namespace Rehearsal.TestClass

open Code Outline

def frame : Frame :=
  { classSetup := "FeatureSetup", classCleanup := "FeatureTearDown"
    testSetup := "TestInitialize", testCleanup := "ScenarioTearDown" }

def scenarioSetupName : String := "ScenarioSetup"

def scenarioCleanupName : String := "ScenarioCleanup"

def backgroundName : String := "FeatureBackground"

def scenarioInfoType : TypeRef := typeNamed "ScenarioInfo"

def featureInfoType : TypeRef := typeNamed "FeatureInfo"

def runnerField : Member :=
  .field { type := some (.of (typeNamed "ITestRunner")), name := Runner.field }

-- A runner that is shared between threads takes no arguments.
def obtainRunner (traits : Traits) : Stmt :=
  .assign Runner.expr
    (.call (.typeName (typeNamed "TestRunnerManager")) "GetTestRunner"
      (if traits.parallel then [] else [nullLiteral, int 0]))

def declareFeatureInfo (language : Language) (feature : Feature) : Stmt :=
  .declare featureInfoType "featureInfo" (some
    (.create featureInfoType
      [.create (typeNamed "CultureInfo") [textOrNull feature.language], text feature.name,
       textOrNull feature.description,
       .field (.typeName (typeNamed "ProgrammingLanguage")) language.constant,
       tagArray (feature.tags.map (·.name))]))

def classSetup (traits : Traits) (language : Language) (feature : Feature) : Method :=
  { name := frame.classSetup
    attributes := [classMethodAttribute]
    statements :=
      [obtainRunner traits, declareFeatureInfo language feature,
       Runner.call "OnFeatureStart" [.var "featureInfo"]] }

def classCleanup : Method :=
  { name := frame.classCleanup
    attributes := [classMethodAttribute]
    statements := [Runner.call "OnFeatureEnd" [], .assign Runner.expr nullLiteral] }

def testSetup : Method := { name := frame.testSetup }

def testCleanup : Method :=
  { name := frame.testCleanup, statements := [Runner.call "OnScenarioEnd" []] }

def scenarioSetup : Method :=
  { name := scenarioSetupName
    parameters := [.of ⟨scenarioInfoType, "scenarioInfo"⟩]
    statements := [Runner.call "OnScenarioStart" [.var "scenarioInfo"]] }

def scenarioCleanup : Method :=
  { name := scenarioCleanupName, statements := [Runner.call "CollectScenarioErrors" []] }

-- The methods that every test class has, in order.
def lifecycle (traits : Traits) (language : Language) (feature : Feature) : List Method :=
  [classSetup traits language feature, classCleanup, testSetup, testCleanup, scenarioSetup,
   scenarioCleanup]

end Rehearsal.TestClass
