/-
# The blocks of a Dockerfile

The texts that Dockerfiles are put together from. Every block but the base image starts with a blank
line, so that blocks can follow each other directly. The base image, the scripts and the package
list take parameters; all other blocks are fixed.
-/

import DockerMatrix.Text.Blank

namespace DockerMatrix
namespace Dockerfile

/-- The text with the given lines, each of them ended. -/
def ofLines : List String → String
  | [] => ""
  | line :: rest => line ++ "\n" ++ ofLines rest

namespace Block

/-- The comment at the head of every Dockerfile. -/
def header : String := "# Taichi Dockerfile for development"

/-- The base image for targets without a graphics card: the operating system's own image. -/
def cpuBase (os version : String) : String :=
  ofLines [header, "FROM " ++ os ++ ":" ++ version]

/-- The base image for targets with a graphics card: always an Ubuntu image with CUDA and OpenGL. -/
def gpuBase (version : String) : String :=
  ofLines
    [header,
     "FROM nvidia/cudagl:11.2.2-devel-ubuntu" ++ version,
     "# Use 11.2 instead of 11.4 to avoid forward compatibility issue on Nvidia driver 460"]

/-- The build and test script, copied into the image. -/
def scripts (script : String) : String :=
  ofLines
    ["",
     "# Load scripts for build and test",
     "WORKDIR /home/dev/scripts",
     "COPY ci/scripts/" ++ script ++ " " ++ script,
     "",
     "WORKDIR /home/dev",
     "ENV LANG=\"C.UTF-8\""]

/-- What stands before a package on a line of its own. -/
def packageIndent : String := "                       "

/-- The lines that install packages after the first one, each continued by the next. -/
def packageLines : List String → List String
  | [] => []
  | [package] => [packageIndent ++ package]
  | package :: rest => (packageIndent ++ package ++ " \\") :: packageLines rest

/-- The command that installs packages, the first one named on the line of the command itself. -/
def install (first : String) (others : List String) : String :=
  ofLines
    ("" :: "RUN apt-get update && \\" :: ("    apt-get install -y " ++ first ++ " \\") ::
      packageLines others)

/-- The first package of every list. -/
def firstPackage : String := "software-properties-common"

/-- The further packages for targets without a graphics card. -/
def cpuPackages : List String :=
  ["python3-pip", "libtinfo-dev", "clang-10", "wget", "git", "unzip", "libx11-xcb-dev"]

/-- The further packages for targets with a graphics card. -/
def gpuPackages : List String :=
  ["python3-pip", "libtinfo-dev", "clang-10", "wget", "git", "unzip", "libxrandr-dev",
   "libxinerama-dev", "libxcursor-dev", "libxi-dev", "libglu1-mesa-dev", "freeglut3-dev",
   "mesa-common-dev", "libssl-dev", "libglm-dev", "libxcb-keysyms1-dev", "libxcb-dri3-dev",
   "libxcb-randr0-dev", "libxcb-ewmh-dev", "libpng-dev", "g++-multilib", "libmirclient-dev",
   "libwayland-dev", "bison", "libx11-xcb-dev", "liblz4-dev", "libzstd-dev", "qt5-default",
   "libglfw3", "libglfw3-dev", "libjpeg-dev", "libvulkan-dev"]

/-- The package list for targets without a graphics card. -/
def cpuInstall : String := install firstPackage cpuPackages

/-- The package list for targets with a graphics card. -/
def gpuInstall : String := install firstPackage gpuPackages

/-- A package list with more packages: the blank end of the list is dropped, then each package
continues the command on a line of its own. Such a list ends without a line end. -/
def patch (block : String) (extra : List String) : String :=
  if extra.isEmpty then block
  else String.ofList (Text.trimEnd block.toList) ++
    String.join (extra.map fun package => " \\\n" ++ packageIndent ++ package)

/-- What of the graphics driver the container may use. -/
def driverCapabilities : String :=
  ofLines
    ["",
     "ENV NVIDIA_DRIVER_CAPABILITIES compute,graphics,utility"]

/-- No questions from the package manager, and who maintains the image. -/
def maintainer : String :=
  ofLines
    ["",
     "ENV DEBIAN_FRONTEND=noninteractive",
     "LABEL maintainer=\"https://github.com/taichi-dev\""]

/-- The build system, from its own release. -/
def cmake : String :=
  ofLines
    ["",
     "# Install the latest version of CMAKE v3.20.5 from source",
     "WORKDIR /",
     "RUN wget https://github.com/Kitware/CMake/releases/download/v3.20.5/cmake-3.20.5-linux-x86_64.tar.gz",
     "RUN tar xf cmake-3.20.5-linux-x86_64.tar.gz && \\",
     "    rm cmake-3.20.5-linux-x86_64.tar.gz",
     "ENV PATH=\"/cmake-3.20.5-linux-x86_64/bin:$PATH\""]

/-- The compiler back end, from a prebuilt release, and the compilers to use. -/
def llvm : String :=
  ofLines
    ["",
     "# Install LLVM 10",
     "WORKDIR /",
     "# Make sure this URL gets updated each time there is a new prebuilt bin release",
     "RUN wget https://github.com/taichi-dev/taichi_assets/releases/download/llvm10_linux_patch2/taichi-llvm-10.0.0-linux.zip",
     "RUN unzip taichi-llvm-10.0.0-linux.zip && \\",
     "    rm taichi-llvm-10.0.0-linux.zip",
     "ENV PATH=\"/taichi-llvm-10.0.0-linux/bin:$PATH\"",
     "# Use Clang as the default compiler",
     "ENV CC=\"clang-10\"",
     "ENV CXX=\"clang++-10\""]

/-- The graphics development kit. -/
def vulkan : String :=
  ofLines
    ["",
     "# Setting up Vulkan SDK",
     "# References",
     "# [1] https://github.com/edowson/docker-nvidia-vulkan",
     "# [2] https://gitlab.com/nvidia/container-images/vulkan/-/tree/master/docker",
     "WORKDIR /vulkan",
     "RUN wget https://sdk.lunarg.com/sdk/download/1.2.189.0/linux/vulkansdk-linux-x86_64-1.2.189.0.tar.gz",
     "RUN tar xf vulkansdk-linux-x86_64-1.2.189.0.tar.gz && \\",
     "    rm vulkansdk-linux-x86_64-1.2.189.0.tar.gz",
     "# Locate Vulkan components",
     "ENV VULKAN_SDK=\"/vulkan/1.2.189.0/x86_64\"",
     "ENV PATH=\"$VULKAN_SDK/bin:$PATH\"",
     "ENV LD_LIBRARY_PATH=\"$VULKAN_SDK/lib$\x7bLD_LIBRARY_PATH:+:$LD_LIBRARY_PATH\x7d\"",
     "ENV VK_LAYER_PATH=\"$VULKAN_SDK/etc/vulkan/explicit_layer.d\"",
     "WORKDIR /usr/share/vulkan/icd.d",
     "COPY ci/vulkan/icd.d/nvidia_icd.json nvidia_icd.json"]

/-- A user other than root, who runs the container. -/
def user : String :=
  ofLines
    ["",
     "# Create non-root user for running the container",
     "RUN useradd -ms /bin/bash dev",
     "WORKDIR /home/dev",
     "USER dev"]

/-- The Python distribution, with one environment per supported version. -/
def conda : String :=
  ofLines
    ["",
     "# Install miniconda",
     "RUN wget https://repo.anaconda.com/miniconda/Miniconda3-latest-Linux-x86_64.sh && \\",
     "    bash Miniconda3-latest-Linux-x86_64.sh -p /home/dev/miniconda -b",
     "ENV PATH=\"/home/dev/miniconda/bin:$PATH\"",
     "",
     "# Set up multi-python environment",
     "RUN conda init bash",
     "RUN conda create -n py36 python=3.6 -y",
     "RUN conda create -n py37 python=3.7 -y",
     "RUN conda create -n py38 python=3.8 -y",
     "RUN conda create -n py39 python=3.9 -y"]

end Block
end Dockerfile
end DockerMatrix
