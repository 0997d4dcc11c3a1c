import FeatureStore.Job.Materialize
import FeatureStore.Job.Source
import FeatureStore.Job.TrainingSet
import FeatureStore.Job.Transformation

/-!
The kinds of job that come with the library.
-/
namespace FeatureStore.RunnerRegistry
variable {m : Type → Type} [Monad m]

def defaults : List (String × RunnerFactory m) :=
  [(JobKind.createTransformation.name, TransformationJob.factory),
    (JobKind.createTrainingSet.name, TrainingSetConfig.factory),
    (JobKind.materialize.name, Materialize.factory id),
    (JobKind.copyToOnline.name, Copy.factory),
    (JobKind.registerSource.name, SourceConfig.factory)]

def registerDefaults (r : RunnerRegistry m) : Except Error Unit × RunnerRegistry m :=
  Registry.registerAll title defaults r

def withDefaults : RunnerRegistry m := (registerDefaults Bindings.empty).2

end FeatureStore.RunnerRegistry
